import LambdaText.Library.Operation
import LambdaText.Proofs.Eval.Templates

/-!
# Composed functions

A composed function calls its parts in a row: the first one with all arguments, every later one with
the result before. Rows may be cut anywhere behind their first part and made functions of their own,
and composition is sequencing in the opposite order.
-/

namespace LambdaText

open LambdaText.Code LambdaText.Function

/-! ### Rows of calls -/

section Rows

variable {α : Type} {m : Type → Type} [Monad m] (call : α → List α → m α) (nothing : α)

/-- Calls functions in a row: the first one takes all arguments, and every later one exactly the
result before. A row without functions gives the first argument back, if there is one. -/
def callRow : List α → List α → m α
  | [], arguments => pure (arguments.headD nothing)
  | f :: rest, arguments => do
    rest.foldlM (fun result g => call g [result]) (← call f arguments)

theorem callRow_cons (f : α) (rest arguments : List α) :
    callRow call nothing (f :: rest) arguments =
      call f arguments >>= rest.foldlM fun result g => call g [result] := rfl

theorem foldlM_callInSequence (fs : List α) (a : α) :
    callInSequence call nothing fs [a] = fs.foldlM (fun result g => call g [result]) a := by
  induction fs generalizing a with
  | nil => rfl
  | cons f fs ih => simp only [callInSequence, List.foldlM_cons, ih]

theorem callInSequence_eq (fs arguments : List α) :
    callInSequence call nothing fs arguments = callRow call nothing fs arguments := by
  cases fs with
  | nil => rfl
  | cons f rest => simp only [callInSequence, callRow, foldlM_callInSequence]

variable [LawfulMonad m]

/-- A row of calls goes on from the result of its front part, if that calls anything. -/
theorem callRow_append {front : List α} (h : front ≠ []) (rest arguments : List α) :
    callRow call nothing (front ++ rest) arguments =
      callRow call nothing front arguments >>= fun result =>
        callRow call nothing rest [result] := by
  obtain ⟨f, front, rfl⟩ := List.exists_cons_of_ne_nil h
  have hrest (a : α) :
      callRow call nothing rest [a] = rest.foldlM (fun result g => call g [result]) a := by
    rw [← callInSequence_eq, foldlM_callInSequence]
  simp only [List.cons_append, callRow_cons, List.foldlM_append, bind_assoc, hrest]

end Rows

/-! ### Functions that call rows -/

/-- A function that takes nothing but positions shares them out as they are. -/
theorem shareCombined_positions {c : Combinator Value} (hdemanded : c.demanded = [])
    (hmore : c.takesMore = true) (positions : List Value) :
    shareCombined c positions [] = pure ([], positions) := by
  have hparameters : combinedParameters c = [.mk "" .variadic none] := by
    rw [combinedParameters, hdemanded, hmore]
    rfl
  have hnone : (nameOfKind? [.mk "" .variadic none] .variadic).isNone = false := rfl
  unfold shareCombined bindArguments
  rw [hparameters, hdemanded]
  simp only [hnone, Bool.and_false, Bool.false_eq_true, if_false]
  rfl

/-- Calling a value, some levels up, is calling functions in a row. -/
def CallsRow (c : Value) (levels : Nat) (row : List Value) : Prop :=
  ∀ (level : Nat) (arguments : List Value) (s : State),
    ((machineAt (level + levels)).call c arguments []).ends s =
      (callRow (callPlain (machineAt level)) .none row arguments).ends s

theorem callsRow_compose (serial : Nat) (fs : List Value) :
    CallsRow (.combined serial (.compose fs)) 1 fs.reverse := by
  intro level arguments s
  change (callCombined (machineAt level) (.compose fs) arguments []).ends s = _
  rw [callCombined, shareCombined_positions rfl rfl, pure_bind, ← callInSequence_eq]

theorem callsRow_sequence (serial : Nat) (fs : List Value) :
    CallsRow (.combined serial (.sequence fs)) 1 fs := by
  intro level arguments s
  change (callCombined (machineAt level) (.sequence fs) arguments []).ends s = _
  rw [callCombined, shareCombined_positions rfl rfl, pure_bind, ← callInSequence_eq]

theorem ends_callRow_two {first second : Value} {front rest : List Value} {levels : Nat}
    (hfirst : CallsRow first levels front) (hsecond : CallsRow second levels rest)
    (hfront : front ≠ []) (level : Nat) (arguments : List Value) (s : State) :
    (callRow (callPlain (machineAt (level + levels))) .none [first, second] arguments).ends s =
      (callRow (callPlain (machineAt level)) .none (front ++ rest) arguments).ends s := by
  rw [callRow_append _ _ hfront]
  simp only [callRow_cons, List.foldlM_cons, List.foldlM_nil, bind_pure]
  rw [Run.ends_bind, Run.ends_bind, callPlain, hfirst]
  cases (callRow (callPlain (machineAt level)) .none front arguments).ends s with
  | none => rfl
  | some result =>
    obtain ⟨⟨e⟩ | ⟨a⟩, t⟩ := result
    · rfl
    · exact hsecond level [a] t

/-! ### Making composed functions -/

theorem coerceAll_eq_pure {fs : List Value} (h : ∀ f ∈ fs, f.isCallable = true) (m : Machine) :
    coerceAll m fs = pure fs := by
  induction fs with
  | nil => rfl
  | cons f fs ih =>
    rw [List.forall_mem_cons] at h
    rw [coerceAll, coerce_eq_pure h.1, ih h.2, pure_bind, pure_bind]

theorem ends_combineRow {fs : List Value} (h : ∀ f ∈ fs, f.isCallable = true) (m : Machine)
    (make : List Value → Combinator Value) (s : State) :
    (combineRow m make fs).ends s =
      some (.ok (.combined s.serial (make fs)), { s with serial := s.serial + 1 }) := by
  rw [combineRow, coerceAll_eq_pure h, pure_bind]
  rfl

/-- Makes one function of two rows, by an operation that makes one of each row and then one of
both. -/
def combineBoth (m : Machine) (op : Operation) (front rest : List Value) : Run Value := do
  let f ← op.run m [] front
  let g ← op.run m [] rest
  op.run m [] [f, g]

theorem ends_combineBoth {front rest : List Value} (hfront : ∀ f ∈ front, f.isCallable = true)
    (hrest : ∀ f ∈ rest, f.isCallable = true) (m : Machine) {op : Operation}
    {make : List Value → Combinator Value} (hop : ∀ fs, op.run m [] fs = combineRow m make fs)
    (s : State) :
    (combineBoth m op front rest).ends s =
      some (.ok (.combined (s.serial + 2)
          (make [.combined s.serial (make front), .combined (s.serial + 1) (make rest)])),
        { s with serial := s.serial + 3 }) := by
  rw [combineBoth, hop, Run.ends_bind_of_ok (ends_combineRow hfront m make s), hop,
    Run.ends_bind_of_ok (ends_combineRow hrest m make _), hop]
  refine ends_combineRow ?_ m make _
  simp [Value.isCallable]

/-- Composition flattens and mirrors sequencing. A composed function, and the one that is composed
of two composed ones, are calls of the same functions in the same row, in every state and with all
positions: the first function of the row takes all of them, and every later one the result before.
Making them calls nothing. The same holds for sequences with the rows the other way around, and a
composition is the sequence of its functions in the opposite order. -/
theorem composition_flattens {fs gs : List Value} (hfs : ∀ f ∈ fs, f.isCallable = true)
    (hgs : ∀ g ∈ gs, g.isCallable = true) (hne : gs ≠ []) (s : State) :
    (∃ c d, (Operation.compose.run machine [] (fs ++ gs)).ends s =
        some (.ok c, { s with serial := s.serial + 1 }) ∧
      (combineBoth machine .compose fs gs).ends s =
        some (.ok d, { s with serial := s.serial + 3 }) ∧
      CallsRow c 1 (gs.reverse ++ fs.reverse) ∧ CallsRow d 2 (gs.reverse ++ fs.reverse)) ∧
    (∃ c d, (Operation.sequence.run machine [] (gs ++ fs)).ends s =
        some (.ok c, { s with serial := s.serial + 1 }) ∧
      (combineBoth machine .sequence gs fs).ends s =
        some (.ok d, { s with serial := s.serial + 3 }) ∧
      CallsRow c 1 (gs ++ fs) ∧ CallsRow d 2 (gs ++ fs)) ∧
    ∃ c d, (Operation.compose.run machine [] fs).ends s =
        some (.ok c, { s with serial := s.serial + 1 }) ∧
      (Operation.sequence.run machine [] fs.reverse).ends s =
        some (.ok d, { s with serial := s.serial + 1 }) ∧
      CallsRow c 1 fs.reverse ∧ CallsRow d 1 fs.reverse := by
  have hboth : ∀ f ∈ fs ++ gs, f.isCallable = true := List.forall_mem_append.2 ⟨hfs, hgs⟩
  have hboth' : ∀ f ∈ gs ++ fs, f.isCallable = true := List.forall_mem_append.2 ⟨hgs, hfs⟩
  have hreverse : ∀ f ∈ fs.reverse, f.isCallable = true := by simpa using hfs
  refine ⟨⟨_, _, ends_combineRow hboth machine .compose s,
      ends_combineBoth hfs hgs machine (fun _ => rfl) s, ?_, ?_⟩,
    ⟨_, _, ends_combineRow hboth' machine .sequence s,
      ends_combineBoth hgs hfs machine (fun _ => rfl) s, callsRow_sequence _ _, ?_⟩,
    ⟨_, _, ends_combineRow hfs machine .compose s,
      ends_combineRow hreverse machine .sequence s, callsRow_compose _ _, callsRow_sequence _ _⟩⟩
  · rw [← List.reverse_append]
    exact callsRow_compose _ _
  · intro level arguments t
    rw [show level + 2 = level + 1 + 1 from rfl, callsRow_compose]
    exact ends_callRow_two (callsRow_compose _ gs) (callsRow_compose _ fs) (by simpa using hne)
      level arguments t
  · intro level arguments t
    rw [show level + 2 = level + 1 + 1 from rfl, callsRow_sequence]
    exact ends_callRow_two (callsRow_sequence _ gs) (callsRow_sequence _ fs) hne level arguments t

/-- Two functions before and none behind. -/
theorem composition_flattens_alone :
    ∃ c d t u, (Operation.compose.run machine [] [.builtin "len", .builtin "max"]).ends {} =
        some (.ok c, t) ∧
      (combineBoth machine .compose [] [.builtin "len", .builtin "max"]).ends {} =
        some (.ok d, u) ∧
      CallsRow c 1 [.builtin "max", .builtin "len"] ∧
      CallsRow d 2 [.builtin "max", .builtin "len"] := by
  have hcallable : ∀ g ∈ [Value.builtin "len", .builtin "max"], g.isCallable = true := by
    simp [Value.isCallable]
  obtain ⟨c, d, hc, hd, hrow, hrow'⟩ :=
    (composition_flattens (List.forall_mem_nil _) hcallable (List.cons_ne_nil _ _) {}).1
  exact ⟨c, d, _, _, hc, hd, hrow, hrow'⟩

end LambdaText
