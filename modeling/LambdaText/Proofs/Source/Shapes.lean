import LambdaText.Proofs.Source.WrittenOut

/-!
# Shapes of sources

The shape of a text is its form and its number of stages, if it can be read at all. A chain can be
read if every piece before its body is a parameter list.
-/

namespace LambdaText.Source

open LambdaText.Text

/-- Whether a segment is a parameter list. -/
def isReadable (segment : List Char) : Bool :=
  (parameterFault? "" [] (parameterTokens segment)).isNone

/-- The form and the number of stages of what was read. -/
def shape : Except Fault Source → Option (Form × Nat)
  | .ok s => some (s.form, s.depth)
  | .error _ => none

/-! ### Parameter lists -/

theorem isNone_parameterFault? (text other : String) (seen names : List String) :
    (parameterFault? text seen names).isNone = (parameterFault? other seen names).isNone := by
  induction names generalizing seen with
  | nil => rfl
  | cons name names ih =>
    rw [parameterFault?, parameterFault?]
    split
    · rfl
    · split
      · rfl
      · exact ih _

theorem readParameters_of_readable (text : String) {segment : List Char}
    (h : isReadable segment = true) :
    readParameters text segment = .ok (parameterTokens segment) := by
  rw [isReadable, isNone_parameterFault? "" text, Option.isNone_iff_eq_none] at h
  simp only [readParameters, h]

theorem readParameters_of_not_readable (text : String) {segment : List Char}
    (h : isReadable segment = false) : ∃ fault, readParameters text segment = .error fault := by
  rw [isReadable, isNone_parameterFault? "" text, Option.isNone_eq_false_iff,
    Option.isSome_iff_exists] at h
  obtain ⟨fault, hfault⟩ := h
  exact ⟨fault, by simp only [readParameters, hfault]⟩

theorem isParameterName_of_parameterFault? {text : String} {seen names : List String}
    (h : parameterFault? text seen names = none) : ∀ n ∈ names, isParameterName n = true := by
  induction names generalizing seen with
  | nil => simp
  | cons name names ih =>
    rw [parameterFault?] at h
    split at h
    · cases h
    · next hname =>
      split at h
      · cases h
      · exact List.forall_mem_cons.2 ⟨by simpa using hname, ih h⟩

theorem exists_mem_runs {test : Char → Bool} {text : List Char} {c : Char} (hc : c ∈ text)
    (htest : test c = true) : ∃ run ∈ runs test text, c ∈ run := by
  have kept : ∃ run ∈ runsKept test text, c ∈ run := by
    induction text with
    | nil => cases hc
    | cons d text ih =>
      obtain ⟨run, rest, hkept⟩ := List.exists_cons_of_ne_nil (runsKept_ne_nil test text)
      rcases List.mem_cons.1 hc with rfl | hc
      · rw [runsKept_cons_of htest hkept]
        exact ⟨_, List.mem_cons_self, List.mem_cons_self⟩
      · obtain ⟨other, hother, hmem⟩ := ih hc
        cases hd : test d with
        | true =>
          rw [runsKept_cons_of hd hkept]
          rw [hkept, List.mem_cons] at hother
          rcases hother with rfl | hother
          · exact ⟨_, List.mem_cons_self, List.mem_cons_of_mem d hmem⟩
          · exact ⟨other, List.mem_cons_of_mem _ hother, hmem⟩
        | false =>
          rw [runsKept_cons_of_not hd]
          exact ⟨other, List.mem_cons_of_mem _ hother, hmem⟩
  obtain ⟨run, hrun, hmem⟩ := kept
  refine ⟨run, ?_, hmem⟩
  rw [runs_eq, List.mem_filter]
  refine ⟨hrun, ?_⟩
  cases run with
  | nil => cases hmem
  | cons _ _ => rfl

/-- A segment with a character that no identifier has is no parameter list, separators apart. -/
theorem not_isReadable {segment : List Char} {c : Char} (hmem : c ∈ segment)
    (hc : isIdentifierRest c = false) (hseparator : isSeparator c = false) :
    isReadable segment = false := by
  cases h : isReadable segment with
  | false => rfl
  | true =>
    rw [isReadable, Option.isNone_iff_eq_none] at h
    obtain ⟨run, hrun, hin⟩ : ∃ run ∈ runs (fun c => !isBlank c && c != ',') segment, c ∈ run :=
      exists_mem_runs hmem (by simpa [isSeparator] using hseparator)
    have hname := isParameterName_of_parameterFault? h (String.ofList run)
      (List.mem_map_of_mem hrun)
    have hidentifier := (isParameterName_iff.1 hname).1
    rw [String.toList_ofList] at hidentifier
    exact absurd hin (not_mem_identifier hidentifier hc)

/-! ### Chains -/

theorem shape_readChain (text own : String) (first second : List Char)
    (rest : List (List Char)) :
    shape (readChain text own (first :: second :: rest)) =
      if (first :: second :: rest).dropLast.all isReadable then some (.arrow, rest.length + 1)
      else none := by
  induction rest generalizing own first second with
  | nil =>
    rw [readChain]
    cases h : isReadable first with
    | true =>
      rw [readParameters_of_readable text h]
      simp [h]
      rfl
    | false =>
      obtain ⟨fault, hfault⟩ := readParameters_of_not_readable text h
      rw [hfault]
      simp [h]
      rfl
  | cons third rest ih =>
    have ih := ih (stageText (second :: third :: rest)) second third
    have hall : (first :: second :: third :: rest).dropLast.all isReadable =
        (isReadable first && (second :: third :: rest).dropLast.all isReadable) := rfl
    rw [readChain_cons (by simp), hall]
    generalize (second :: third :: rest).dropLast.all isReadable = later at ih
    cases hinner :
      readChain text (stageText (second :: third :: rest)) (second :: third :: rest) with
    | error fault =>
      rw [hinner] at ih
      cases later with
      | true => cases ih
      | false =>
        rw [Bool.and_false]
        rfl
    | ok inner =>
      rw [hinner] at ih
      cases later with
      | false => cases ih
      | true =>
        rw [if_pos rfl, shape, Option.some.injEq, Prod.mk.injEq] at ih
        cases h : isReadable first with
        | true =>
          rw [readParameters_of_readable text h]
          simp only [bind, Except.bind, pure, Except.pure, shape, form, depth, ih.2]
          simp
          omega
        | false =>
          obtain ⟨fault, hfault⟩ := readParameters_of_not_readable text h
          rw [hfault]
          rfl

theorem shape_read (operandName receiver : List Char) (text : String) :
    shape (read operandName receiver text) =
      match sections text.toList with
      | first :: second :: rest =>
        if (first :: second :: rest).dropLast.all isReadable then some (.arrow, rest.length + 1)
        else none
      | _ => some ((readPlain operandName receiver text).form, 1) := by
  have hdepth : (readPlain operandName receiver text).depth = 1 := by
    rw [readPlain]
    split
    · rfl
    · split <;> rfl
  rw [read]
  rcases sections text.toList with - | ⟨first, - | ⟨second, rest⟩⟩
  · rw [shape, hdepth]
  · rw [shape, hdepth]
  · exact shape_readChain text text first second rest

end LambdaText.Source
