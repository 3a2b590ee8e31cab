import LambdaText.Source.Literal
import LambdaText.Text.Blank
import Mathlib.Data.List.TakeWhile

/-!
# Runs of characters

A text falls apart at the characters that fail a test. The runs of a whole are the runs of the parts
on both sides of such a character, and a run that is followed by one, or by nothing, stands at the
front of the list.
-/

namespace LambdaText.Source

open LambdaText.Text

variable {test : Char → Bool}

/-- The runs of a text with the empty ones kept, the first one reaching to the front. -/
def runsKept (test : Char → Bool) (text : List Char) : List (List Char) :=
  text.foldr (fun c => addToRuns (test c) c) [[]]

theorem runs_eq (test : Char → Bool) (text : List Char) :
    runs test text = (runsKept test text).filter fun run => !run.isEmpty := rfl

theorem runsKept_cons (test : Char → Bool) (c : Char) (text : List Char) :
    runsKept test (c :: text) = addToRuns (test c) c (runsKept test text) := rfl

theorem runsKept_ne_nil (test : Char → Bool) (text : List Char) : runsKept test text ≠ [] := by
  cases text with
  | nil => simp [runsKept]
  | cons c text =>
    rw [runsKept_cons]
    cases runsKept test text <;> cases test c <;> simp [addToRuns]

theorem runsKept_cons_of_not {c : Char} (hc : test c = false) (text : List Char) :
    runsKept test (c :: text) = [] :: runsKept test text := by
  rw [runsKept_cons, hc]
  cases h : runsKept test text with
  | nil => exact absurd h (runsKept_ne_nil test text)
  | cons run rest => simp [addToRuns]

theorem runsKept_cons_of {c : Char} (hc : test c = true) {text run : List Char}
    {rest : List (List Char)} (h : runsKept test text = run :: rest) :
    runsKept test (c :: text) = (c :: run) :: rest := by
  rw [runsKept_cons, hc, h]
  simp [addToRuns]

@[simp] theorem runs_nil (test : Char → Bool) : runs test [] = [] := rfl

theorem runs_cons_of_not {c : Char} (hc : test c = false) (text : List Char) :
    runs test (c :: text) = runs test text := by
  rw [runs_eq, runsKept_cons_of_not hc, runs_eq]
  simp

/-- Characters that belong to no run may stand in front. -/
theorem runs_append_of_none {gap : List Char} (hgap : ∀ c ∈ gap, test c = false)
    (text : List Char) : runs test (gap ++ text) = runs test text := by
  induction gap with
  | nil => rfl
  | cons c gap ih =>
    rw [List.cons_append, runs_cons_of_not (hgap c (by simp)),
      ih fun d hd => hgap d (by simp [hd])]

/-- The first run of a text whose first character fails the test is empty. -/
theorem runsKept_of_head {text : List Char} (h : text.head?.all fun c => !test c) :
    ∃ rest, runsKept test text = [] :: rest := by
  cases text with
  | nil => exact ⟨[], rfl⟩
  | cons c text => exact ⟨_, runsKept_cons_of_not (by simpa using h) text⟩

theorem runsKept_append {word : List Char} (hword : ∀ c ∈ word, test c = true)
    {text run : List Char} {rest : List (List Char)} (h : runsKept test text = run :: rest) :
    runsKept test (word ++ text) = (word ++ run) :: rest := by
  induction word with
  | nil => exact h
  | cons c word ih =>
    exact runsKept_cons_of (hword c (by simp)) (ih fun d hd => hword d (by simp [hd]))

/-- A run that ends before `text` is the first one. -/
theorem runs_append_of_all {word : List Char} (hword : ∀ c ∈ word, test c = true)
    (hne : word ≠ []) {text : List Char} (h : text.head?.all fun c => !test c) :
    runs test (word ++ text) = word :: runs test text := by
  obtain ⟨rest, hrest⟩ := runsKept_of_head h
  rw [runs_eq, runsKept_append hword hrest, runs_eq, hrest]
  simp [hne]

/-- A character that belongs to no run keeps the runs on its two sides apart. -/
theorem runs_append_cons_of_not {c : Char} (hc : test c = false) (before after : List Char) :
    runs test (before ++ c :: after) = runs test before ++ runs test after := by
  have key : runsKept test (before ++ c :: after) =
      runsKept test before ++ runsKept test after := by
    induction before with
    | nil => exact runsKept_cons_of_not hc after
    | cons d before ih =>
      rw [List.cons_append, runsKept_cons, runsKept_cons, ih]
      cases h : runsKept test before with
      | nil => exact absurd h (runsKept_ne_nil test before)
      | cons run rest => cases test d <;> simp [addToRuns]
  rw [runs_eq, key, List.filter_append, ← runs_eq, ← runs_eq]

/-! ### Where runs stand -/

/-- A part stands in a text between characters that fail the test, or the ends of the text. -/
def StandsIn (test : Char → Bool) (part text : List Char) : Prop :=
  ∃ before after, text = before ++ part ++ after ∧ before.getLast?.any test = false ∧
    after.head?.any test = false

theorem StandsIn.behind {part text : List Char} (h : StandsIn test part text)
    {c : Char} (hc : test c = false) (front : List Char) :
    StandsIn test part (front ++ c :: text) := by
  obtain ⟨before, after, rfl, hbefore, hafter⟩ := h
  refine ⟨front ++ c :: before, after, by simp, ?_, hafter⟩
  rcases List.eq_nil_or_concat before with rfl | ⟨before, d, rfl⟩
  · simpa using hc
  · rw [List.concat_eq_append, List.getLast?_concat] at hbefore
    rwa [List.concat_eq_append, ← List.cons_append, ← List.append_assoc, List.getLast?_concat]

/-- What stands in a text for a test stands in it for every test that its characters fail with it.
-/
theorem StandsIn.of_imp {other : Char → Bool} {part text : List Char} (h : StandsIn test part text)
    (himp : ∀ c ∈ text, other c = true → test c = true) : StandsIn other part text := by
  obtain ⟨before, after, rfl, hbefore, hafter⟩ := h
  have fails {c? : Option Char} (hin : ∀ c ∈ c?, c ∈ before ++ part ++ after)
      (hc : c?.any test = false) : c?.any other = false := by
    cases c? with
    | none => rfl
    | some c =>
      rw [Option.any_some, ← Bool.not_eq_true] at hc ⊢
      exact fun hother => hc (himp c (hin c rfl) hother)
  refine ⟨before, after, rfl, fails (fun c hc => ?_) hbefore, fails (fun c hc => ?_) hafter⟩
  · simp [List.mem_of_getLast? hc]
  · simp [List.mem_of_mem_head? hc]

theorem StandsIn.mem_runs {run text : List Char} (h : StandsIn test run text) (hne : run ≠ [])
    (hrun : ∀ c ∈ run, test c = true) : run ∈ runs test text := by
  obtain ⟨before, after, rfl, hbefore, hafter⟩ := h
  have hfirst : runs test (run ++ after) = run :: runs test after :=
    runs_append_of_all hrun hne (by cases after <;> simp_all)
  rcases List.eq_nil_or_concat before with rfl | ⟨before, c, rfl⟩
  · simp [hfirst]
  · have hc : test c = false := by simpa using hbefore
    rw [List.concat_eq_append, List.append_assoc, List.append_assoc, List.singleton_append,
      runs_append_cons_of_not hc, hfirst]
    simp

theorem standsIn_of_mem_runs {run text : List Char} (h : run ∈ runs test text) :
    run ≠ [] ∧ (∀ c ∈ run, test c = true) ∧ StandsIn test run text := by
  induction hlength : text.length using Nat.strongRecOn generalizing text with
  | _ size ih =>
    cases text with
    | nil => cases h
    | cons c text =>
      cases hc : test c with
      | false =>
        rw [runs_cons_of_not hc] at h
        obtain ⟨hne, hrun, hstands⟩ := ih text.length (by simp [← hlength]) h rfl
        exact ⟨hne, hrun, hstands.behind hc []⟩
      | true =>
        -- the run at the front, and what is behind it
        obtain ⟨first, after, htext, hfirst, hafter⟩ : ∃ first after, c :: text = first ++ after ∧
            (∀ d ∈ first, test d = true) ∧ after.head?.any test = false :=
          ⟨(c :: text).takeWhile test, (c :: text).dropWhile test,
            List.takeWhile_append_dropWhile.symm, fun d hd => List.mem_takeWhile_imp hd, by
              have := List.head?_dropWhile_not test (c :: text)
              cases h : ((c :: text).dropWhile test).head? <;> simp_all⟩
        have hne : first ≠ [] := by
          rintro rfl
          rw [List.nil_append] at htext
          simp [← htext, hc] at hafter
        rw [htext, runs_append_of_all hfirst hne (by cases after <;> simp_all),
          List.mem_cons] at h
        rcases h with rfl | h
        · exact ⟨hne, hfirst, [], after, htext, rfl, hafter⟩
        · cases after with
          | nil => cases h
          | cons d after =>
            have hd : test d = false := hafter
            rw [runs_cons_of_not hd] at h
            have hshorter : after.length < size := by
              rw [← hlength, htext, List.length_append, List.length_cons]
              omega
            obtain ⟨hrunNe, hrun, hstands⟩ := ih after.length hshorter h rfl
            exact ⟨hrunNe, hrun, htext ▸ hstands.behind hd first⟩

end LambdaText.Source
