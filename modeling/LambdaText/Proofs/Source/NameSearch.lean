import LambdaText.Source.Reading
import Mathlib.Data.Finset.Card
import Mathlib.Logic.Relation
import Mathlib.Order.Bounds.Basic

/-!
# The search for a free name

A name is made up from a candidate: as long as it is taken, it gets one more underscore. Nothing in
this loop counts its rounds, and it grows the name that it tests. It ends all the same, as every
round leaves a taken name behind that is shorter than all names that come later. So the tries that
`freshName` allows are always enough, and the name it gives is the one where the loop ends.
-/

namespace LambdaText.Source

variable {taken : List (List Char)} {candidate name next : List Char}

/-! ### Rounds -/

/-- One round of the search: a name that is taken gets an underscore. -/
def Retries (taken : List (List Char)) (name next : List Char) : Prop :=
  name ∈ taken ∧ next = name ++ ['_']

/-- The number of taken names that the search may still come upon from a name. -/
def ahead (taken : List (List Char)) (name : List Char) : Nat :=
  (taken.toFinset.filter fun other => name.length ≤ other.length).card

theorem ahead_le (taken : List (List Char)) (name : List Char) :
    ahead taken name ≤ taken.toFinset.card :=
  Finset.card_filter_le _ _

/-- A round leaves the name behind that was taken. -/
theorem Retries.ahead_lt (h : Retries taken name next) : ahead taken next < ahead taken name := by
  obtain ⟨htaken, rfl⟩ := h
  refine Finset.card_lt_card ((Finset.ssubset_iff_of_subset ?_).2 ⟨name, ?_, ?_⟩)
  · intro other hother
    simp only [Finset.mem_filter, List.length_append, List.length_singleton] at hother ⊢
    exact ⟨hother.1, by omega⟩
  · simpa using htaken
  · simp

/-- No search goes on for ever. -/
theorem wellFounded_retries (taken : List (List Char)) :
    WellFounded fun next name => Retries taken name next :=
  Subrelation.wf (fun h => h.ahead_lt) (measure (ahead taken)).wf

/-! ### Runs -/

/-- With as many tries as there are taken names ahead, a search comes to its end. -/
theorem freshWithin_ends {tries : Nat} (h : ahead taken name ≤ tries) :
    Relation.ReflTransGen (Retries taken) name (freshWithin taken tries name) ∧
      freshWithin taken tries name ∉ taken := by
  induction tries generalizing name with
  | zero =>
    rw [freshWithin]
    refine ⟨.refl, fun htaken => ?_⟩
    have hround : Retries taken name (name ++ ['_']) := ⟨htaken, rfl⟩
    exact absurd hround.ahead_lt (by omega)
  | succ tries ih =>
    rw [freshWithin]
    split
    · next htaken =>
      have hround : Retries taken name (name ++ ['_']) := ⟨by simpa using htaken, rfl⟩
      have hlt := hround.ahead_lt
      obtain ⟨hrun, hfree⟩ := @ih (name ++ ['_']) (by omega)
      exact ⟨.head hround hrun, hfree⟩
    · next hfree => exact ⟨.refl, by simpa using hfree⟩

theorem freshName_ends (taken : List (List Char)) (candidate : List Char) :
    Relation.ReflTransGen (Retries taken) candidate (freshName taken candidate) ∧
      freshName taken candidate ∉ taken :=
  freshWithin_ends ((ahead_le taken candidate).trans (List.toFinset_card_le taken))

/-- What holds in every round: the name is the candidate with some underscores, with fewer of them
it was taken each time, and each time one taken name less was ahead. -/
theorem padded_of_run (h : Relation.ReflTransGen (Retries taken) candidate name) :
    ∃ k, name = candidate ++ List.replicate k '_' ∧
      (∀ j < k, candidate ++ List.replicate j '_' ∈ taken) ∧
      ahead taken name + k ≤ ahead taken candidate := by
  induction h with
  | refl => exact ⟨0, by simp⟩
  | @tail name next _ hround ih =>
    obtain ⟨k, hk, hbefore, hahead⟩ := ih
    have hlt := hround.ahead_lt
    obtain ⟨htaken, rfl⟩ := hround
    refine ⟨k + 1, ?_, fun j hj => ?_, by omega⟩
    · rw [hk, List.append_assoc, List.replicate_succ']
    · rcases Nat.lt_succ_iff_lt_or_eq.1 hj with hj | rfl
      · exact hbefore j hj
      · exact hk ▸ htaken

/-! ### The name that is found -/

/-- A candidate with as few underscores as tell it from the names that are taken. -/
structure IsFreshFor (taken : List (List Char)) (candidate name : List Char) : Prop where
  notTaken : name ∉ taken
  padded : ∃ k, name = candidate ++ List.replicate k '_' ∧
    ∀ j < k, candidate ++ List.replicate j '_' ∈ taken

theorem isFreshFor_freshName (taken : List (List Char)) (candidate : List Char) :
    IsFreshFor taken candidate (freshName taken candidate) := by
  obtain ⟨hrun, hfree⟩ := freshName_ends taken candidate
  obtain ⟨k, hk, hbefore, -⟩ := padded_of_run hrun
  exact ⟨hfree, k, hk, hbefore⟩

theorem isLeast_of_padded {k : Nat} (hfree : candidate ++ List.replicate k '_' ∉ taken)
    (hbefore : ∀ j < k, candidate ++ List.replicate j '_' ∈ taken) :
    IsLeast {j | candidate ++ List.replicate j '_' ∉ taken} k :=
  ⟨hfree, fun j hj => Nat.le_of_not_lt fun hlt => hj (hbefore j hlt)⟩

theorem IsFreshFor.unique {other : List Char} (h : IsFreshFor taken candidate name)
    (hother : IsFreshFor taken candidate other) : name = other := by
  obtain ⟨hfree, k, rfl, hk⟩ := h
  obtain ⟨hfree', l, rfl, hl⟩ := hother
  rw [(isLeast_of_padded hfree hk).unique (isLeast_of_padded hfree' hl)]

/-- A taken name that is not the candidate with underscores makes no difference. -/
theorem IsFreshFor.of_cons {other : List Char} (h : IsFreshFor (other :: taken) candidate name)
    (hother : ∀ k, candidate ++ List.replicate k '_' ≠ other) :
    IsFreshFor taken candidate name := by
  obtain ⟨hfree, k, hk, hbefore⟩ := h
  refine ⟨fun htaken => hfree (List.mem_cons_of_mem other htaken), k, hk, fun j hj => ?_⟩
  exact (List.mem_cons.1 (hbefore j hj)).resolve_left (hother j)

theorem freshName_cons {other : List Char}
    (hother : ∀ k, candidate ++ List.replicate k '_' ≠ other) :
    freshName (other :: taken) candidate = freshName taken candidate :=
  ((isFreshFor_freshName _ _).of_cons hother).unique (isFreshFor_freshName _ _)

/-! ### Two candidates -/

/-- Candidates that differ in their last characters differ with any underscores behind them. -/
theorem padded_ne (operandName : List Char) {c d : Char} (h : c ≠ d) (k l : Nat) :
    operandName ++ [c] ++ List.replicate k '_' ≠ operandName ++ [d] ++ List.replicate l '_' := by
  rw [List.append_assoc, List.append_assoc]
  intro heq
  exact h (List.cons.inj (List.append_cancel_left heq)).1

theorem padded_ne_freshName (taken : List (List Char)) (operandName : List Char) {c d : Char}
    (h : c ≠ d) (k : Nat) :
    operandName ++ [c] ++ List.replicate k '_' ≠ freshName taken (operandName ++ [d]) := by
  obtain ⟨l, hl, -⟩ := (isFreshFor_freshName taken (operandName ++ [d])).padded
  rw [hl]
  exact padded_ne operandName h k l

theorem freshName_ne (taken : List (List Char)) (operandName : List Char) {c d : Char}
    (h : c ≠ d) :
    freshName taken (operandName ++ [c]) ≠ freshName taken (operandName ++ [d]) := by
  obtain ⟨k, hk, -⟩ := (isFreshFor_freshName taken (operandName ++ [c])).padded
  rw [hk]
  exact padded_ne_freshName taken operandName h k

/-- A made-up name holds the digit that it was made with. -/
theorem mem_freshName (taken : List (List Char)) (operandName : List Char) (digit : Char) :
    digit ∈ freshName taken (operandName ++ [digit]) := by
  obtain ⟨k, hk, -⟩ := (isFreshFor_freshName taken (operandName ++ [digit])).padded
  rw [hk]
  simp

/-! ### The whole search -/

/-- Whatever names are taken, no search goes on for ever, and from every candidate it ends with the
name that is made up: the candidate with the least number of underscores that make a name that is
not taken, and they are not more than the taken names. The names for a lacking first and a lacking
last operand are never the same, although neither counts as taken for the other; if the first one
did, the last one would be what it is. -/
theorem search_finds_least (taken : List (List Char)) :
    (WellFounded fun next name => Retries taken name next) ∧
      (∀ candidate,
        Relation.ReflTransGen (Retries taken) candidate (freshName taken candidate) ∧
        freshName taken candidate ∉ taken ∧
        ∃ k ≤ taken.toFinset.card,
          freshName taken candidate = candidate ++ List.replicate k '_' ∧
          IsLeast {j | candidate ++ List.replicate j '_' ∉ taken} k) ∧
      ∀ operandName,
        freshName taken (operandName ++ ['1']) ≠ freshName taken (operandName ++ ['2']) ∧
        freshName (freshName taken (operandName ++ ['1']) :: taken) (operandName ++ ['2']) =
          freshName taken (operandName ++ ['2']) := by
  refine ⟨wellFounded_retries taken, fun candidate => ?_, fun operandName => ⟨?_, ?_⟩⟩
  · obtain ⟨hrun, hfree⟩ := freshName_ends taken candidate
    obtain ⟨k, hk, hbefore, hahead⟩ := padded_of_run hrun
    have hcount := ahead_le taken candidate
    exact ⟨hrun, hfree, k, by omega, hk, isLeast_of_padded (hk ▸ hfree) hbefore⟩
  · exact freshName_ne taken operandName (by decide)
  · exact freshName_cons (padded_ne_freshName taken operandName (by decide))

example : freshName ["n1_".toList, "n1".toList, "n2_".toList] "n1".toList = "n1__".toList := by
  decide

end LambdaText.Source
