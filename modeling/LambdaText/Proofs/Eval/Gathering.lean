import LambdaText.Proofs.Eval.Templates

/-!
# Calls that gather arguments

A function that counts its arguments takes them in rows, before or behind those that it holds. As
long as there are too few of them a call only makes a new function that holds more; with the row
that completes the count, the function is called once with all rows in order. A count that has too
many digits to be written is the one thing that keeps such a call from making a new function.
-/

namespace LambdaText

open LambdaText.Code LambdaText.Function LambdaText.Number

/-! ### Rows in order -/

/-- The arguments of all rows in the order in which the function takes them. -/
def gathered (right : Bool) (rows : List (List Value)) : List Value :=
  if right then rows.reverse.flatten else rows.flatten

@[simp] theorem gathered_singleton (right : Bool) (row : List Value) :
    gathered right [row] = row := by
  cases right <;> simp [gathered]

@[simp] theorem combine_gathered (right : Bool) (rows : List (List Value)) (row : List Value) :
    combine right (gathered right rows) row = gathered right (rows ++ [row]) := by
  cases right <;> simp [combine, gathered]

/-! ### Counts -/

/-- Whether a count can be written. -/
def IsWritable (n : Nat) : Prop := n < 10 ^ maxDecimalDigits

theorem ends_lacksArguments (n count : Nat) (s : State) :
    (lacksArguments n (.int count)).ends s = some (.ok (decide (n < count)), s) := by
  have hstanding : orderHolds .lt (Standing.ofInts n count) = decide (n < count) := by
    unfold Standing.ofInts
    by_cases hlt : n < count
    · simp [hlt, orderHolds]
    · by_cases heq : (n : Int) = count <;> simp [hlt, heq, orderHolds]
  rw [← hstanding]
  rfl

theorem ends_integerText_of_writable {n : Nat} (h : IsWritable n) (s : State) :
    (integerText n).ends s = some (.ok (toString (n : Int)), s) := by
  have hshort : ¬ maxDecimalDigits < (toString n).length := by
    rw [Nat.not_lt, Nat.toString_eq_ofList_toDigits, String.length_ofList,
      Nat.length_toDigits_le_iff (by decide) (by decide)]
    exact h
  have hint : ¬ maxDecimalDigits < (toString (n : Int)).length := hshort
  simp only [integerText, hint, decide_false, Bool.false_and, Bool.false_eq_true, if_false]
  rfl

/-- Where the count can be written, a new function holds the arguments so far. -/
theorem ends_deferCurried {n : Nat} (hn : IsWritable n) (f right : Value) (held : List Value)
    (s : State) :
    ∃ log, (deferCurried ⟨f, held, some (.int n), right⟩).ends s =
      some (.ok (.curried s.serial ⟨f, held, some (.int n), right⟩),
        { s with serial := s.serial + 1, log }) := by
  have htext : (formatValue (.int n) "").ends s = some (.ok (toString (n : Int)), s) :=
    ends_integerText_of_writable hn s
  refine ⟨s.log.push ⟨Log.partialLog, .debug,
    s!"Curried call has {held.length} of {toString (n : Int)} arguments; deferring"⟩, ?_⟩
  rw [deferCurried, Option.getD_some, Run.ends_bind_of_ok htext]
  rfl

theorem ends_deferCurried_of_long {n : Nat} (hn : ¬ IsWritable n) (f right : Value)
    (held : List Value) (s : State) :
    ∃ message, (deferCurried ⟨f, held, some (.int n), right⟩).ends s =
      some (.error (.error "ValueError" [.text message] none), s) := by
  obtain ⟨message, herror⟩ := ends_integerText_of_long (Nat.not_lt.1 hn) s
  have htext : (formatValue (.int n) "").ends s =
      some (.error (.error "ValueError" [.text message] none), s) := herror
  refine ⟨message, ?_⟩
  rw [deferCurried, Option.getD_some]
  exact Run.ends_bind_of_error htext _

/-! ### One call -/

theorem ends_holdCounted {f : Value} (hf : f.isCallable = true) (m : Machine) (right : Bool)
    (n : Nat) (held : List Value) (s : State) :
    (holdCounted m right (.int n) f held).ends s =
      some (.ok (.curried s.serial ⟨f, held, some (.int n), .bool right⟩),
        { s with serial := s.serial + 1 }) := by
  have hcount : (checkCount (.int n)).ends s = some (.ok (.int n), s) := by
    have : isCount (.int n) = true := by simp [isCount]
    rw [checkCount, if_pos this]
    rfl
  rw [holdCounted, Run.ends_bind_of_ok (coerce_callable hf m s), Run.ends_bind_of_ok hcount]
  rfl

/-- A call without keywords puts the new arguments to those that are held. -/
theorem ends_call_counted (level serial n : Nat) (right : Bool) (f : Value)
    (held row : List Value) (s : State) :
    ((machineAt (level + 1)).call (.curried serial ⟨f, held, some (.int n), .bool right⟩) row
        []).ends s =
      if (combine right held row).length < n then
        (deferCurried ⟨f, combine right held row, some (.int n), .bool right⟩).ends s
      else ((machineAt level).call f (combine right held row) []).ends s := by
  change ((Curried.call truth lacksArguments deferCurried (callPlain (machineAt level))
    ⟨f, held, some (.int n), .bool right⟩ row).ends s) = _
  have hright : (truth (.bool right)).ends s = some (.ok right, s) := rfl
  rw [Curried.call, Run.ends_bind_of_ok hright]
  simp only
  rw [Run.ends_bind_of_ok (ends_lacksArguments _ n s)]
  by_cases hfew : (combine right held row).length < n <;> simp [hfew, callPlain]

theorem ends_call_uncounted (level serial : Nat) (right : Bool) (f : Value)
    (held row : List Value) (s : State) :
    ((machineAt (level + 1)).call (.curried serial ⟨f, held, none, .bool right⟩) row []).ends s =
      ((machineAt level).call f (combine right held row) []).ends s := rfl

/-- Functions with held arguments refuse keywords, whatever they hold. -/
theorem ends_call_curried_keywords (level serial serial' : Nat) (c c' : Curried Value)
    (row : List Value) {keywords : Keywords} (h : keywords ≠ []) (s : State) :
    ((machineAt (level + 1)).call (.curried serial c) row keywords).ends s =
      ((machineAt (level + 1)).call (.curried serial' c') row keywords).ends s := by
  cases keywords with
  | nil => exact absurd rfl h
  | cons k rest => rfl

/-- How a call ends with which these rows of arguments have come together: with a new function that
holds them all, with an error where the count cannot be written, or with one call of the function.
-/
inductive GatheredEnd (level : Nat) (right : Bool) (n : Nat) (f : Value) (rows : List (List Value))
    (s : State) : Option (Except Value Value × State) → Prop
  | deferred (hfew : (gathered right rows).length < n) (hn : IsWritable n)
    (log : Array Log.Record) :
    GatheredEnd level right n f rows s
      (some (.ok (.curried s.serial ⟨f, gathered right rows, some (.int n), .bool right⟩),
        { s with serial := s.serial + 1, log }))
  | unwritten (hfew : (gathered right rows).length < n) (hn : ¬ IsWritable n) (message : String) :
    GatheredEnd level right n f rows s
      (some (.error (.error "ValueError" [.text message] none), s))
  | called (henough : n ≤ (gathered right rows).length) :
    GatheredEnd level right n f rows s
      (((machineAt level).call f (gathered right rows) []).ends s)

/-- One call of a function that holds rows gathers one more row. -/
theorem gatheredEnd_call (level serial n : Nat) (right : Bool) (f : Value)
    (rows : List (List Value)) (row : List Value) (s : State) :
    GatheredEnd level right n f (rows ++ [row]) s
      (((machineAt (level + 1)).call
        (.curried serial ⟨f, gathered right rows, some (.int n), .bool right⟩) row []).ends s) := by
  rw [ends_call_counted, combine_gathered]
  by_cases hfew : (gathered right (rows ++ [row])).length < n
  · rw [if_pos hfew]
    by_cases hn : IsWritable n
    · obtain ⟨log, hdefer⟩ := ends_deferCurried hn f (.bool right) (gathered right (rows ++ [row])) s
      rw [hdefer]
      exact .deferred hfew hn log
    · obtain ⟨message, herror⟩ :=
        ends_deferCurried_of_long hn f (.bool right) (gathered right (rows ++ [row])) s
      rw [herror]
      exact .unwritten hfew hn message
  · rw [if_neg hfew]
    exact .called (Nat.not_lt.1 hfew)

/-! ### Calls in turn -/

/-- Holds arguments of a function until there are `n`, and calls what that gives with rows of
arguments in turn. -/
def gatherInTurn (m : Machine) (right : Bool) (n : Nat) (f : Value) (held : List Value)
    (rows : List (List Value)) : Run Value := do
  callInTurn m (← holdCounted m right (.int n) f held) rows

/-- Rows with which there are too few arguments make new functions only, whatever the level: the
function that is held is not called. -/
theorem ends_gatherInTurn {f : Value} (hf : f.isCallable = true) (level : Nat) (right : Bool)
    {n : Nat} (held : List Value) {rows : List (List Value)} (s : State)
    (hfew : ∀ j, 0 < j → j ≤ rows.length → (gathered right (held :: rows.take j)).length < n)
    (hn : rows ≠ [] → IsWritable n) :
    ∃ log, (gatherInTurn (machineAt (level + 1)) right n f held rows).ends s =
      some (.ok (.curried (s.serial + rows.length)
          ⟨f, gathered right (held :: rows), some (.int n), .bool right⟩),
        { s with serial := s.serial + rows.length + 1, log }) := by
  induction rows using List.reverseRecOn with
  | nil =>
    refine ⟨s.log, ?_⟩
    rw [gatherInTurn, Run.ends_bind_of_ok (ends_holdCounted hf _ right n held s)]
    simp [callInTurn]
  | append_singleton rows row ih =>
    have hwritable := hn (by simp)
    have hinit : ∀ j, 0 < j → j ≤ rows.length →
        (gathered right (held :: rows.take j)).length < n := by
      intro j hpos hj
      have := hfew j hpos (by simp; omega)
      rwa [List.take_append_of_le_length hj] at this
    obtain ⟨log, hrun⟩ := ih hinit fun _ => hwritable
    have hlast : (gathered right (held :: (rows ++ [row]))).length < n := by
      have := hfew (rows.length + 1) (by omega) (by simp)
      rwa [List.take_of_length_le (by simp)] at this
    have hcall := gatheredEnd_call level (s.serial + rows.length) n right f (held :: rows) row
      { s with serial := s.serial + rows.length + 1, log }
    rw [gatherInTurn, Run.ends_bind_of_ok (ends_holdCounted hf _ right n held s)] at hrun ⊢
    rw [ends_callInTurn_append, Run.ends_bind_of_ok hrun, ends_callInTurn_one]
    generalize ((machineAt (level + 1)).call _ row []).ends _ = result at hcall ⊢
    cases hcall with
    | deferred _ _ log =>
      exact ⟨log, by simp [Nat.add_assoc]⟩
    | unwritten _ hlong => exact absurd hwritable hlong
    | called henough => exact absurd hlast (Nat.not_lt.2 henough)

/-! ### Both sides -/

/-- Holds arguments of a function on one side, and then others on the other side. -/
def holdTwice (m : Machine) (right : Bool) (f : Value) (inner outer : List Value) : Run Value := do
  hold m (!right) (← hold m right f inner) outer

theorem ends_holdTwice {f : Value} (hf : f.isCallable = true) (m : Machine) (right : Bool)
    (inner outer : List Value) (s : State) :
    (holdTwice m right f inner outer).ends s =
      some (.ok (.curried (s.serial + 1)
          ⟨.curried s.serial ⟨f, inner, none, .bool right⟩, outer, none, .bool !right⟩),
        { s with serial := s.serial + 2 }) := by
  rw [holdTwice, Run.ends_bind_of_ok (ends_hold hf m right inner s)]
  exact ends_hold rfl m (!right) outer _

/-- Without a count the next call is the call of the function, as it is with the count zero. -/
theorem ends_call_uncounted_eq_zero (level serial : Nat) (right : Bool) (f : Value)
    (held row : List Value) (keywords : Keywords) (s : State) :
    ((machineAt (level + 1)).call (.curried serial ⟨f, held, none, .bool right⟩) row
        keywords).ends s =
      ((machineAt (level + 1)).call (.curried serial ⟨f, held, some (.int (0 : Nat)), .bool right⟩)
        row keywords).ends s := by
  by_cases hkeywords : keywords = []
  · subst hkeywords
    rw [ends_call_uncounted, ends_call_counted, if_neg (Nat.not_lt_zero _)]
  · exact ends_call_curried_keywords _ _ _ _ _ _ hkeywords s

/-- Arguments held in front and behind stand around the new ones. -/
theorem ends_call_holdTwice (level serial serial' : Nat) (right : Bool) (f : Value)
    (inner outer row : List Value) (s : State) :
    ((machineAt (level + 2)).call (.curried serial
        ⟨.curried serial' ⟨f, inner, none, .bool right⟩, outer, none, .bool !right⟩) row []).ends
          s =
      ((machineAt level).call f
        (combine right inner (combine (!right) outer row)) []).ends s := rfl

/-- A function that counts its arguments gathers rows of them in turn: as long as there are too few,
each call makes a new function that holds all rows so far, and the function itself is not called,
which shows in that this holds for the lowest level too, where no call ends. The row that completes
the count is one call of the function with all rows in order. A call with too few arguments makes no
new function only if the count cannot be written. Holding without a count is counting to zero, and
the order in which both sides are held does not matter. -/
theorem counted_calls_gather {f : Value} (hf : f.isCallable = true) (level : Nat) (right : Bool)
    (n : Nat) (held : List Value) (rows : List (List Value)) (row : List Value) (s : State)
    (hfew : ∀ j, 0 < j → j ≤ rows.length → (gathered right (held :: rows.take j)).length < n)
    (hn : rows ≠ [] → IsWritable n) :
    (holdCounted machine right (.int n) f held).ends s =
      some (.ok (.curried s.serial ⟨f, held, some (.int n), .bool right⟩),
        { s with serial := s.serial + 1 }) ∧
    (∀ j ≤ rows.length,
      ∃ log, (gatherInTurn (machineAt (level + 1)) right n f held (rows.take j)).ends s =
        some (.ok (.curried (s.serial + j)
            ⟨f, gathered right (held :: rows.take j), some (.int n), .bool right⟩),
          { s with serial := s.serial + j + 1, log })) ∧
    (∃ log, GatheredEnd level right n f (held :: (rows ++ [row]))
      { s with serial := s.serial + rows.length + 1, log }
      ((gatherInTurn (machineAt (level + 1)) right n f held (rows ++ [row])).ends s)) ∧
    (∃ g h t, (hold machine right f held).ends s = some (.ok g, t) ∧
      (holdCounted machine right (.int (0 : Nat)) f held).ends s = some (.ok h, t) ∧
      ∀ row keywords u, ((machineAt (level + 1)).call g row keywords).ends u =
        ((machineAt (level + 1)).call h row keywords).ends u) ∧
    ∀ front back, ∃ g h t, (holdTwice machine true f back front).ends s = some (.ok g, t) ∧
      (holdTwice machine false f front back).ends s = some (.ok h, t) ∧
      ∀ row u,
        ((machineAt (level + 2)).call g row []).ends u =
          ((machineAt level).call f (front ++ row ++ back) []).ends u ∧
        ∀ keywords, ((machineAt (level + 2)).call g row keywords).ends u =
          ((machineAt (level + 2)).call h row keywords).ends u := by
  obtain ⟨log, hrun⟩ := ends_gatherInTurn hf level right held s hfew hn
  refine ⟨ends_holdCounted hf machine right n held s, ?_, ⟨log, ?_⟩, ?_, fun front back => ?_⟩
  · intro j hj
    have hfew' : ∀ i, 0 < i → i ≤ (rows.take j).length →
        (gathered right (held :: (rows.take j).take i)).length < n := by
      intro i hpos hi
      rw [List.length_take_of_le hj] at hi
      rw [List.take_take, Nat.min_eq_left hi]
      exact hfew i hpos (hi.trans hj)
    have hprefix := ends_gatherInTurn hf level right held s hfew' fun hne => hn (by
      rintro rfl
      exact hne (List.take_nil))
    rwa [List.length_take_of_le hj] at hprefix
  · rw [gatherInTurn, Run.ends_bind_of_ok (ends_holdCounted hf _ right n held s)] at hrun ⊢
    rw [ends_callInTurn_append, Run.ends_bind_of_ok hrun, ends_callInTurn_one]
    exact gatheredEnd_call level _ n right f (held :: rows) row _
  · exact ⟨_, _, _, ends_hold hf machine right held s,
      ends_holdCounted hf machine right 0 held s,
      fun row keywords u => ends_call_uncounted_eq_zero _ _ _ _ _ _ _ _⟩
  · refine ⟨_, _, _, ends_holdTwice hf machine true back front s,
      ends_holdTwice hf machine false front back s, fun row u => ⟨?_, fun keywords => ?_⟩⟩
    · rw [ends_call_holdTwice]
      simp [combine]
    · by_cases hkeywords : keywords = []
      · subst hkeywords
        rw [ends_call_holdTwice, ends_call_holdTwice]
        simp [combine]
      · exact ends_call_curried_keywords _ _ _ _ _ _ hkeywords u

/-- With a count that is too long to be written, a call with too few arguments fails. -/
theorem count_too_long_to_write :
    (gathered false [[], [.int 1]]).length < 10 ^ 5000 ∧
    ∃ message t, (gatherInTurn machine false (10 ^ 5000) (.builtin "max") [] [[.int 1]]).ends {} =
      some (.error (.error "ValueError" [.text message] none), t) := by
  have hlong := Nat.pow_le_pow_right (show 10 > 0 by decide)
    (show maxDecimalDigits ≤ 5000 by decide)
  have hone := Nat.one_lt_pow (show 5000 ≠ 0 by decide) (show 1 < 10 by decide)
  generalize 10 ^ 5000 = n at hlong hone ⊢
  obtain ⟨k, hk⟩ : ∃ k, topLevel = k + 1 := ⟨topLevel - 1, by decide⟩
  obtain ⟨message, hdefer⟩ := ends_deferCurried_of_long (Nat.not_lt.2 hlong) (.builtin "max")
    (.bool false) [.int 1] { serial := 1 }
  have hfew : (combine false [] [Value.int 1]).length < n := hone
  refine ⟨hone, message, { serial := 1 }, ?_⟩
  rw [gatherInTurn, Run.ends_bind_of_ok (ends_holdCounted rfl machine false n [] {}),
    ends_callInTurn_one, machine, hk, ends_call_counted, if_pos hfew]
  exact hdefer

/-- Two calls behind which one more argument is lacking, and the call that gives it. -/
theorem counted_calls_gather_thrice :
    (∀ j, 0 < j → j ≤ 2 → (gathered true ([.int 1] :: [[], [.int 2]].take j)).length < 3) ∧
    IsWritable 3 ∧
    ∃ log, GatheredEnd (topLevel - 1) true 3 (.builtin "max")
      [[.int 1], [], [.int 2], [.int 3, .int 4]] { serial := 3, log }
      ((gatherInTurn machine true 3 (.builtin "max") [.int 1]
        [[], [.int 2], [.int 3, .int 4]]).ends {}) := by
  have hfew : ∀ j, 0 < j → j ≤ 2 →
      (gathered true ([.int 1] :: [[], [.int 2]].take j)).length < 3 := by
    intro j hpos hj
    obtain rfl | rfl : j = 1 ∨ j = 2 := by omega
    · decide
    · decide
  have hn : IsWritable 3 := (show 3 < 10 ^ 1 by decide).trans_le
    (Nat.pow_le_pow_right (by decide) (by decide))
  refine ⟨hfew, hn, ?_⟩
  exact (counted_calls_gather (show (Value.builtin "max").isCallable = true from rfl)
    (topLevel - 1) true 3 [.int 1] [[], [.int 2]] [.int 3, .int 4] {} hfew fun _ => hn).2.2.1

end LambdaText
