import LambdaText.Proofs.Source.Acceptance

/-!
# Made-up names are fresh

An operand that is lacking gets a given name, a digit and, as long as the text has taken that name,
one more underscore. A name is listed as taken only if it is made of word characters and starts with
an ASCII letter or underscore. So a made-up name of that kind stands nowhere in the text as a word,
while one of any other kind is used as it is, whatever names the text has.
-/

namespace LambdaText.Source

open LambdaText.Text

/-! ### Names that are taken -/

/-- A name may be listed as taken if it is made of word characters and starts with an ASCII letter
or underscore. -/
structure MayBeTaken (name : List Char) : Prop where
  start : name.head?.any isAsciiNameStart = true
  allWord : ∀ c ∈ name, isWordChar c = true

theorem mayBeTaken_of_mem {name text : List Char} (h : name ∈ takenNames text) :
    MayBeTaken name := by
  obtain ⟨hmem, hne⟩ := List.mem_filter.1 h
  obtain ⟨word, hword, rfl⟩ := List.mem_map.1 hmem
  have hall := (standsIn_of_mem_runs hword).2.1
  refine ⟨?_, fun c hc => hall c ((List.dropWhile_suffix _).subset hc)⟩
  have hhead := List.head?_dropWhile_not (fun c => !isAsciiNameStart c) word
  cases hname : word.dropWhile fun c => !isAsciiNameStart c with
  | nil => simp [hname] at hne
  | cons c rest => simpa [hname] using hhead

theorem MayBeTaken.mem_takenNames {name text : List Char} (h : MayBeTaken name)
    (hstands : StandsIn isWordChar name text) : name ∈ takenNames text := by
  have hne : name ≠ [] := by
    rintro rfl
    cases h.start
  have hword : name ∈ words text := hstands.mem_runs hne h.allWord
  refine List.mem_filter.2 ⟨List.mem_map.2 ⟨name, hword, ?_⟩, by simpa using hne⟩
  obtain ⟨c, rest, rfl⟩ := List.exists_cons_of_ne_nil hne
  have hc : isAsciiNameStart c = true := h.start
  simp [hc]

/-- With a digit and underscores behind it, a name may be taken just if it may be without. -/
theorem mayBeTaken_padded {operandName : List Char} {digit : Char} (hdigit : digit ∈ ['1', '2'])
    (k : Nat) : MayBeTaken (operandName ++ [digit] ++ List.replicate k '_') ↔
      MayBeTaken operandName := by
  have hadded : isWordChar '1' = true ∧ isWordChar '2' = true ∧ isWordChar '_' = true := by decide
  have hstarts : isAsciiNameStart '1' = false ∧ isAsciiNameStart '2' = false := by decide
  simp only [List.mem_cons, List.not_mem_nil, or_false] at hdigit
  have hword : isWordChar digit = true := by
    rcases hdigit with rfl | rfl
    · exact hadded.1
    · exact hadded.2.1
  have hstart : isAsciiNameStart digit = false := by
    rcases hdigit with rfl | rfl
    · exact hstarts.1
    · exact hstarts.2
  constructor
  · intro h
    refine ⟨?_, fun c hc => h.allWord c (by simp [hc])⟩
    have hhead := h.start
    cases operandName with
    | nil => simp [hstart] at hhead
    | cons c rest => simpa using hhead
  · intro h
    refine ⟨?_, ?_⟩
    · have hhead := h.start
      cases operandName with
      | nil => cases hhead
      | cons c rest => simpa using hhead
    · simp only [List.mem_append, List.mem_singleton, List.mem_replicate]
      rintro c ((hc | rfl) | ⟨-, rfl⟩)
      · exact h.allWord c hc
      · exact hword
      · exact hadded.2.2

/-- A name of a kind that is never listed as taken gets no underscores. -/
theorem IsFreshFor.eq_of_not_mayBeTaken {operandName name text : List Char} {digit : Char}
    (h : IsFreshFor (takenNames text) (operandName ++ [digit]) name) (hdigit : digit ∈ ['1', '2'])
    (hname : ¬ MayBeTaken operandName) : name = operandName ++ [digit] := by
  obtain ⟨k, rfl, hbefore⟩ := h.padded
  cases k with
  | zero => simp
  | succ k =>
    have hmay := mayBeTaken_of_mem (hbefore 0 (Nat.succ_pos k))
    exact absurd ((mayBeTaken_padded hdigit 0).1 hmay) hname

/-! ### Operands -/

/-- A text has no word of one underscore if no underscore stands outside of its literals. -/
theorem hasUnderscore_eq_false {text : List Char} (h : '_' ∉ stripLiterals text) :
    hasUnderscore text = false := by
  rw [hasUnderscore, ← Bool.not_eq_true, List.contains_iff_mem]
  intro hmem
  obtain ⟨-, -, before, after, htext, -⟩ := standsIn_of_mem_runs hmem
  exact h (by simp [htext])

/-- Which grammar a text without a given one has shows in what was read. -/
theorem read_openEnded {operandName receiver : List Char} {text : String} {s : Source}
    (h : read operandName receiver text = .ok s) (hform : s.form = .openEnded) :
    s.parameters = (fillOperands operandName text.toList).1 ∧
      (lacksFirst text.toList || lacksLast text.toList) = true := by
  rw [read] at h
  split at h
  · have harrow := readChain_arrow h s (by cases s <;> simp [stages])
    rw [hform] at harrow
    cases harrow
  · cases h
    rw [readPlain] at hform ⊢
    split at hform
    · cases hform
    · next hunderscore =>
      split at hform
      · next hlacks =>
        rw [if_neg hunderscore, if_pos hlacks]
        exact ⟨rfl, hlacks⟩
      · cases hform

/-- The operands that a text lacks are named: none of them twice, and each with as few underscores
as tell it from the names that are listed as taken. If the given name may be listed as taken, no
operand stands in the text as a word, nor as an identifier where every word character belongs to
identifiers; if not, the operands are the given name and a digit, whatever stands in the text. -/
theorem operands_fresh {operandName receiver : List Char} {text : String} {s : Source}
    (h : read operandName receiver text = .ok s) (hform : s.form = .openEnded) :
    s.parameters ≠ [] ∧ s.parameters.length ≤ 2 ∧ s.parameters.Nodup ∧
      (∀ n ∈ s.parameters, ∃ digit ∈ ['1', '2'],
        IsFreshFor (takenNames text.toList) (operandName ++ [digit]) n.toList) ∧
      (MayBeTaken operandName → ∀ n ∈ s.parameters,
        ¬ StandsIn isWordChar n.toList text.toList ∧
          ((∀ c ∈ text.toList, isWordChar c = true → isIdentifierRest c = true) →
            n.toList ∉ runs isIdentifierRest text.toList)) ∧
      (¬ MayBeTaken operandName → ∀ n ∈ s.parameters, ∃ digit ∈ ['1', '2'],
        n.toList = operandName ++ [digit]) := by
  obtain ⟨hparameters, hlacks⟩ := read_openEnded h hform
  obtain ⟨hnodup, hmade⟩ := fillOperands_names operandName text.toList
  rw [← hparameters] at hnodup hmade
  have hfresh : ∀ n ∈ s.parameters, ∃ digit ∈ ['1', '2'],
      IsFreshFor (takenNames text.toList) (operandName ++ [digit]) n.toList := by
    intro n hn
    obtain ⟨digit, hdigit, hname⟩ := hmade n hn
    exact ⟨digit, hdigit, hname ▸ isFreshFor_freshName _ _⟩
  have hcount : s.parameters ≠ [] ∧ s.parameters.length ≤ 2 := by
    rw [hparameters, fillOperands]
    cases hfirst : lacksFirst text.toList <;> cases hlast : lacksLast text.toList <;>
      simp_all
  refine ⟨hcount.1, hcount.2, hnodup, hfresh, fun hname n hn => ?_, fun hname n hn => ?_⟩
  · obtain ⟨digit, hdigit, hfree⟩ := hfresh n hn
    have hmay : MayBeTaken n.toList := by
      obtain ⟨k, hk, -⟩ := hfree.padded
      exact hk ▸ (mayBeTaken_padded hdigit k).2 hname
    have hword : ¬ StandsIn isWordChar n.toList text.toList :=
      fun hstands => hfree.notTaken (hmay.mem_takenNames hstands)
    exact ⟨hword, fun hall hrun => hword ((standsIn_of_mem_runs hrun).2.2.of_imp hall)⟩
  · obtain ⟨digit, hdigit, hfree⟩ := hfresh n hn
    exact ⟨digit, hdigit, hfree.eq_of_not_mayBeTaken hdigit hname⟩

/-- A name that the text has gets an underscore. -/
theorem operands_fresh_padded :
    ∃ s, read ['n'] ['s'] "+n1*" = .ok s ∧ s.form = .openEnded ∧
      s.parameters = ["n1_", "n2"] ∧ s.parameters.Nodup ∧
      ∀ n ∈ s.parameters, n.toList ∉ runs isIdentifierRest "+n1*".toList := by
  have hread : read ['n'] ['s'] "+n1*" =
      .ok (.last "+n1*" .openEnded ["n1_", "n2"] "n1_+n1*n2") := by decide +kernel
  have hwords : "+n1*".toList.all (fun c => !isWordChar c || isIdentifierRest c) = true := by
    decide +kernel
  have hn : isWordChar 'n' = true := by decide
  obtain ⟨-, -, hnodup, -, hfresh, -⟩ := operands_fresh hread rfl
  refine ⟨_, hread, rfl, rfl, hnodup, fun n hmem => ?_⟩
  refine (hfresh ⟨rfl, List.forall_mem_singleton.2 hn⟩ n hmem).2 fun c hc hword => ?_
  simpa [hword] using List.all_eq_true.1 hwords c hc

/-- A given name that starts with another letter is one that the text may have. -/
theorem accented_operand_stands :
    isIdentifier ['é'] = true ∧
      ∃ s, read ['é'] ['s'] "+é1" = .ok s ∧ s.form = .openEnded ∧ s.parameters = ["é1"] ∧
        isIdentifier ['é', '1'] = true ∧ ['é', '1'] ∈ runs isIdentifierRest "+é1".toList := by
  have htext : "+é1".toList = ['+', 'é', '1'] := rfl
  have hletter : isIdentifierStart 'é' = true := by
    have htable : identifierStartTable.contains 'é'.toNat = true := by
      rw [identifierStartTable, RangeTable.contains, RangeTable.ofLines, List.any_toArray,
        List.any_flatMap, List.any_cons]
      exact Bool.or_eq_true_iff.2 (.inl (by decide +kernel))
    rw [isIdentifierStart, if_neg (by decide), htable]
  have hdigit : isIdentifierRest '1' = true := by decide
  have hall : ∀ c ∈ ['é', '1'], isIdentifierRest c = true := by
    simp [isIdentifierRest_of_start hletter, hdigit]
  have hname : freshName (takenNames ['+', 'é', '1']) (['é'] ++ ['1']) = ['é', '1'] :=
    (isFreshFor_freshName _ _).eq_of_not_mayBeTaken (by simp) fun h =>
      absurd h.start (by decide)
  have hplain : hasUnderscore ['+', 'é', '1'] = false := hasUnderscore_eq_false (by decide)
  have hlacks : lacksFirst ['+', 'é', '1'] = true ∧ lacksLast ['+', 'é', '1'] = false := by decide
  have hread : read ['é'] ['s'] "+é1" = .ok (.last "+é1" .openEnded ["é1"] "é1+é1") := by
    rw [read_of_noArrow _ _ (by rw [htext, NoArrow]; decide), readPlain, htext, hplain, hlacks.1,
      hlacks.2, fillOperands, hlacks.1, hlacks.2, hname]
    rfl
  refine ⟨?_, _, hread, rfl, rfl, ?_, ?_⟩
  · simp [isIdentifier, hletter]
  · simp [isIdentifier, hletter, hdigit]
  · exact StandsIn.mem_runs ⟨['+'], [], htext, by decide, rfl⟩ (by simp) hall

end LambdaText.Source
