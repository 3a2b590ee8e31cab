import LambdaText.Proofs.Eval.Prefilters
import LambdaText.Proofs.Eval.Repetition
import LambdaText.Proofs.Library.Searches

/-!
# The first stage at which a test holds

An iterated function goes from a value to what a function makes of it, and on in this way, until a
test holds. It gives the first stage at which the test holds, if that is reached without an error;
the test and the function are called in turn, the test first and last. There is no bound on the
number of stages.
-/

namespace LambdaText

open LambdaText.Code LambdaText.Function

section

variable (m : Machine) (test f : Value)

/-- Whether a test, called on a value in a state, decides in this way and leaves another state. -/
def Decides (holds : Bool) (v : Value) (s t : State) : Prop :=
  ∃ p, (callPlain m test [v]).ends s = some (.ok p, t) ∧ t.counts p = holds

/-- Stages that are passed on the way from a value in a state to a later stage: at each of them the
test does not hold, and the function makes the next one of it. -/
inductive Stages : State → Value → List Value → Value → State → Prop
  | start (s : State) (v : Value) : Stages s v [] v s
  | next {s t u u' : State} {v next last : Value} {passed : List Value}
    (htest : Decides m test false v s t) (hf : (callPlain m f [v]).ends t = some (.ok next, u))
    (hrest : Stages u next passed last u') : Stages s v (v :: passed) last u'

/-- How the iteration ends at a stage: the test holds of it, or its call fails, or the test does not
hold of it and the call of the function fails. -/
inductive StageEnd (v : Value) (s : State) : Except Value Value → State → Prop
  | holds {t : State} (h : Decides m test true v s t) : StageEnd v s (.ok v) t
  | testFails {e : Value} {t : State} (h : (callPlain m test [v]).ends s = some (.error e, t)) :
    StageEnd v s (.error e) t
  | callFails {e : Value} {t u : State} (htest : Decides m test false v s t)
    (h : (callPlain m f [v]).ends t = some (.error e, u)) : StageEnd v s (.error e) u

/-- The calls of a test and a function in turn on a row of values, each with its value. -/
def callsInTurn (passed : List Value) : List (Value × Value) :=
  passed.flatMap fun v => [(test, v), (f, v)]

/-- Whether calls of functions on values are made in a row from one state to another, with nothing
between them, and all end well. -/
inductive MadeInRow : State → List (Value × Value) → State → Prop
  | nil (s : State) : MadeInRow s [] s
  | cons {s t u : State} {g x y : Value} {rest : List (Value × Value)}
    (h : (callPlain m g [x]).ends s = some (.ok y, t)) (hrest : MadeInRow t rest u) :
    MadeInRow s ((g, x) :: rest) u

end

variable {m : Machine} {test f v w : Value} {s t u : State} {passed : List Value}

/-! ### Single stages -/

theorem ends_iterationStep_holds (h : Decides m test true v s t) (f : Value) :
    (iterationStep m test f v).ends s = some (.ok (.inr v), t) := by
  obtain ⟨p, hcall, hp⟩ := h
  rw [iterationStep, Run.ends_bind_of_ok hcall, Run.ends_bind_of_ok (ends_truth p t), hp]
  rfl

theorem ends_iterationStep_testFails {e : Value}
    (h : (callPlain m test [v]).ends s = some (.error e, t)) (f : Value) :
    (iterationStep m test f v).ends s = some (.error e, t) := by
  rw [iterationStep, Run.ends_bind_of_error h]

/-- Where the test does not hold, a stage is a call of the function. -/
theorem ends_iterationStep_goesOn (h : Decides m test false v s t) (f : Value) :
    (iterationStep m test f v).ends s =
      (Sum.inl <$> callPlain m f [v] : Run (Value ⊕ Value)).ends t := by
  obtain ⟨p, hcall, hp⟩ := h
  rw [iterationStep, Run.ends_bind_of_ok hcall, Run.ends_bind_of_ok (ends_truth p t), hp,
    map_eq_pure_bind]
  rfl

theorem ends_iterateUntil_next {next : Value} (htest : Decides m test false v s t)
    (hf : (callPlain m f [v]).ends t = some (.ok next, u)) :
    (iterateUntil m test f v).ends s = (iterateUntil m test f next).ends u := by
  rw [iterateUntil, Run.ends_iterate, ends_iterationStep_goesOn htest, map_eq_pure_bind,
    Run.ends_bind_of_ok hf]
  rfl

theorem stageEnd_or_next {result : Except Value (Value ⊕ Value)}
    (h : (iterationStep m test f v).ends s = some (result, u)) :
    (∃ last : Except Value Value, StageEnd m test f v s last u ∧ result = last.map .inr) ∨
      ∃ next t, Decides m test false v s t ∧ (callPlain m f [v]).ends t = some (.ok next, u) ∧
        result = .ok (.inl next) := by
  rcases (callPlain m test [v]).ends_cases s with htest | ⟨e, t, htest⟩ | ⟨p, t, htest⟩
  · rw [iterationStep, Run.ends_bind, htest] at h
    cases h
  · rw [ends_iterationStep_testFails htest] at h
    cases h
    exact .inl ⟨_, .testFails htest, rfl⟩
  · cases hp : t.counts p with
    | true =>
      have hholds : Decides m test true v s t := ⟨p, htest, hp⟩
      rw [ends_iterationStep_holds hholds] at h
      cases h
      exact .inl ⟨.ok v, .holds hholds, rfl⟩
    | false =>
      have hnot : Decides m test false v s t := ⟨p, htest, hp⟩
      rw [ends_iterationStep_goesOn hnot, map_eq_pure_bind] at h
      obtain ⟨e, hf, rfl⟩ | ⟨next, t', hf, hrest⟩ := Run.ends_bind_cases h
      · exact .inl ⟨_, .callFails hnot hf, rfl⟩
      · cases hrest
        exact .inr ⟨next, t, hnot, hf, rfl⟩

/-! ### Whole iterations -/

theorem ends_iterateUntil_of_stages (h : Stages m test f s v passed w t) :
    (iterateUntil m test f v).ends s = (iterateUntil m test f w).ends t := by
  induction h with
  | start => rfl
  | next htest hf hrest ih => rw [ends_iterateUntil_next htest hf, ih]

theorem ends_iterateUntil_of_stageEnd {result : Except Value Value}
    (h : StageEnd m test f v s result t) :
    (iterateUntil m test f v).ends s = some (result, t) := by
  rw [iterateUntil, Run.ends_iterate]
  cases h with
  | holds h => rw [ends_iterationStep_holds h]
  | testFails h => rw [ends_iterationStep_testFails h]
  | callFails htest h =>
    rw [ends_iterationStep_goesOn htest, map_eq_pure_bind, Run.ends_bind_of_error h]

/-- An iteration that ends within a number of stages passes some and ends at the next one. -/
theorem exists_stages_of_repeatWithin {n : Nat} {result : Except Value Value}
    (h : (Run.repeatWithin (iterationStep m test f) n v).ends s = some (result, u)) :
    ∃ passed w t, Stages m test f s v passed w t ∧ StageEnd m test f w t result u := by
  induction n generalizing v s with
  | zero => cases h
  | succ n ih =>
    rw [Run.ends_repeatWithin_succ] at h
    cases hstep : (iterationStep m test f v).ends s with
    | none =>
      rw [hstep] at h
      cases h
    | some e =>
      obtain ⟨ended, t'⟩ := e
      rw [hstep] at h
      obtain ⟨last, hend, rfl⟩ | ⟨next, t, hnot, hf, rfl⟩ := stageEnd_or_next hstep
      · cases last <;> cases h <;> exact ⟨[], v, s, .start s v, hend⟩
      · obtain ⟨passed, w, t, hstages, hend⟩ := ih h
        exact ⟨v :: passed, w, t, .next hnot hf hstages, hend⟩

theorem ends_iterateUntil_eq_some_iff {result : Except Value Value} :
    (iterateUntil m test f v).ends s = some (result, u) ↔
      ∃ passed w t, Stages m test f s v passed w t ∧ StageEnd m test f w t result u := by
  constructor
  · intro h
    obtain ⟨n, hn⟩ := Run.exists_repeatWithin h
    exact exists_stages_of_repeatWithin hn
  · rintro ⟨passed, w, t, hstages, hend⟩
    rw [ends_iterateUntil_of_stages hstages, ends_iterateUntil_of_stageEnd hend]

/-! ### Calls -/

theorem MadeInRow.append {calls more : List (Value × Value)} (h : MadeInRow m s calls t)
    (hmore : MadeInRow m t more u) : MadeInRow m s (calls ++ more) u := by
  induction h with
  | nil => exact hmore
  | cons h hrest ih => exact .cons h (ih hmore)

theorem Decides.madeInRow {holds : Bool} (h : Decides m test holds v s t) :
    MadeInRow m s [(test, v)] t := by
  obtain ⟨p, hcall, -⟩ := h
  exact .cons hcall (.nil t)

theorem Stages.madeInRow (h : Stages m test f s v passed w t) :
    MadeInRow m s (callsInTurn test f passed) t := by
  induction h with
  | start => exact .nil _
  | next htest hf hrest ih => exact htest.madeInRow.append (.cons hf ih)

/-- The iterated function calls its parts from the level below. -/
theorem callPlain_iterate (m : Machine) (serial : Nat) (test f v : Value) :
    callPlain m.above (.combined serial (.iterate test f)) [v] = iterateUntil m test f v := rfl

/-- On so many values the test and the function are called in turn, each so often. -/
theorem map_fst_callsInTurn (test f : Value) (passed : List Value) :
    (callsInTurn test f passed).map Prod.fst =
      (List.replicate passed.length [test, f]).flatten := by
  induction passed with
  | nil => rfl
  | cons v passed ih =>
    rw [callsInTurn, List.flatMap_cons, List.map_append, ← callsInTurn, ih]
    rfl

/-- An iterated function finds the first stage at which its test holds. It gives a result where that
many stages are passed, at none of which the test holds, as lead to one at which it does; it fails
where the call of the test or the function at a stage that is reached in this way fails, with the
error and the state of that call. On the way it calls nothing but the test and the function, in
turn on every stage that is passed, and the test once more on the last one. -/
theorem until_first_stage {test f : Value} (htest : test.isCallable = true)
    (hf : f.isCallable = true) (s : State) :
    ∃ c, (Operation.iterate.run machine [test, f] []).ends s =
        some (.ok c, { s with serial := s.serial + 1 }) ∧
      ∀ (m : Machine) (v : Value) (t : State),
        (∀ r u, (callPlain m.above c [v]).ends t = some (.ok r, u) ↔
          ∃ k passed t', List.length passed = k ∧ Stages m test f t v passed r t' ∧
            Decides m test true r t' u) ∧
        (∀ e u, (callPlain m.above c [v]).ends t = some (.error e, u) ↔
          ∃ passed w t', Stages m test f t v passed w t' ∧
            ((callPlain m test [w]).ends t' = some (.error e, u) ∨
              ∃ t'', Decides m test false w t' t'' ∧
                (callPlain m f [w]).ends t'' = some (.error e, u))) ∧
        ∀ passed w t', Stages m test f t v passed w t' →
          MadeInRow m t (callsInTurn test f passed) t' ∧
          (∀ u, Decides m test true w t' u →
            MadeInRow m t (callsInTurn test f passed ++ [(test, w)]) u) ∧
          (callsInTurn test f passed ++ [(test, w)]).map Prod.fst =
            (List.replicate passed.length [test, f]).flatten ++ [test] := by
  refine ⟨_, ends_combineTwo htest hf machine .iterate s, fun m v t => ⟨fun r u => ?_,
    fun e u => ?_, fun passed w t' hstages => ⟨hstages.madeInRow, fun u hholds =>
      hstages.madeInRow.append hholds.madeInRow, ?_⟩⟩⟩
  · rw [callPlain_iterate, ends_iterateUntil_eq_some_iff]
    constructor
    · rintro ⟨passed, w, t', hstages, hend⟩
      cases hend with
      | holds h => exact ⟨_, passed, t', rfl, hstages, h⟩
    · rintro ⟨_, passed, t', -, hstages, h⟩
      exact ⟨passed, r, t', hstages, .holds h⟩
  · rw [callPlain_iterate, ends_iterateUntil_eq_some_iff]
    constructor
    · rintro ⟨passed, w, t', hstages, hend⟩
      cases hend with
      | testFails h => exact ⟨passed, w, t', hstages, .inl h⟩
      | callFails hnot h => exact ⟨passed, w, t', hstages, .inr ⟨_, hnot, h⟩⟩
    · rintro ⟨passed, w, t', hstages, h | ⟨t'', hnot, h⟩⟩
      · exact ⟨passed, w, t', hstages, .testFails h⟩
      · exact ⟨passed, w, t', hstages, .callFails hnot h⟩
  · rw [List.map_append, map_fst_callsInTurn]
    rfl

/-- Writing a text until it has a length: the empty text is passed. -/
theorem until_first_stage_written :
    ∃ c t, (Operation.iterate.run machine [.builtin "len", .builtin "repr"] []).ends {} =
        some (.ok c, t) ∧
      (callPlain (machineAt 2) c [.text ""]).ends {} = some (.ok (.text "''"), {}) ∧
      MadeInRow (machineAt 1) {} [(.builtin "len", .text ""), (.builtin "repr", .text ""),
        (.builtin "len", .text "''")] {} := by
  have hnot : Decides (machineAt 1) (.builtin "len") false (.text "") {} {} := ⟨.int 0, rfl, rfl⟩
  have hholds : Decides (machineAt 1) (.builtin "len") true (.text "''") {} {} :=
    ⟨.int 2, rfl, rfl⟩
  have hstages : Stages (machineAt 1) (.builtin "len") (.builtin "repr") {} (.text "")
      [.text ""] (.text "''") {} := .next hnot rfl (.start _ _)
  have hlen : (Value.builtin "len").isCallable = true := rfl
  have hrepr : (Value.builtin "repr").isCallable = true := rfl
  obtain ⟨c, hc, hcall⟩ := until_first_stage hlen hrepr {}
  obtain ⟨hresult, -, hcalls⟩ := hcall (machineAt 1) (.text "") {}
  exact ⟨c, _, hc, (hresult _ _).2 ⟨_, _, _, rfl, hstages, hholds⟩,
    (hcalls _ _ _ hstages).2.1 _ hholds⟩

end LambdaText
