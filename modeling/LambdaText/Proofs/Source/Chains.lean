import LambdaText.Proofs.Source.Arrows
import LambdaText.Proofs.Text.Tables
import Mathlib.Data.List.Forall2

/-!
# Reading chains

A text that writes parameter lists and a body with arrows between them is read as the chain of those
lists, around that body without its leading blanks.
-/

namespace LambdaText.Source

open LambdaText.Text

/-! ### Parameters -/

theorem isParameterName_iff {name : String} :
    isParameterName name = true ↔ isIdentifier name.toList = true ∧ isReserved name = false := by
  simp [isParameterName]

theorem isSeparator_of_identifierRest {c : Char} (hc : isIdentifierRest c = true) :
    isSeparator c = false := by
  cases hs : isSeparator c with
  | false => rfl
  | true =>
    simp only [isSeparator, Bool.or_eq_true, beq_iff_eq] at hs
    rcases hs with hs | rfl
    · rw [isIdentifierRest_of_blank hs] at hc
      exact hc.symm
    · exact absurd hc (by decide)

theorem isToken_of_identifier {name : String} (h : isIdentifier name.toList = true) :
    IsToken name where
  ne_nil := by
    intro hnil
    rw [hnil] at h
    exact Bool.false_ne_true h
  noSeparator c hc := isSeparator_of_identifierRest (isIdentifierRest_of_mem h c hc)

theorem parameterFault?_eq_none (text : String) {names : List String} (seen : List String)
    (hnames : ∀ name ∈ names, isParameterName name = true) (hnodup : names.Nodup)
    (hseen : ∀ name ∈ names, name ∉ seen) : parameterFault? text seen names = none := by
  induction names generalizing seen with
  | nil => rfl
  | cons name names ih =>
    rw [List.nodup_cons] at hnodup
    have hfirst : seen.contains name = false := by simpa using hseen name (by simp)
    rw [parameterFault?, hnames name (by simp), hfirst]
    refine ih _ (fun n hn => hnames n (by simp [hn])) hnodup.2 fun n hn => ?_
    rw [List.mem_cons, not_or]
    refine ⟨?_, hseen n (by simp [hn])⟩
    rintro rfl
    exact hnodup.1 hn

/-- A parameter list of distinct names that may be parameters. -/
structure IsParameterList (names : List String) : Prop where
  nodup : names.Nodup
  allowed : ∀ name ∈ names, isParameterName name = true

theorem IsParameterList.isToken {names : List String} (h : IsParameterList names) :
    ∀ name ∈ names, IsToken name :=
  fun name hname => isToken_of_identifier (isParameterName_iff.1 (h.allowed name hname)).1

theorem readParameters_of_tokens {text : String} {segment : List Char} {names : List String}
    (h : parameterTokens segment = names) (hnames : IsParameterList names) :
    readParameters text segment = .ok names := by
  have hnone := parameterFault?_eq_none text [] hnames.allowed hnames.nodup (by simp)
  simp only [readParameters, h, hnone]

/-! ### Chains -/

theorem parameterLists_eq (s : Source) :
    s.parameterLists = s.parameters :: s.parameterLists.tail := by
  cases s <;> rfl

/-- Segments and a body with arrows between them. -/
def chainText : List (List Char) → List Char → List Char
  | [], body => body
  | segment :: segments, body => segment ++ '-' :: '>' :: chainText segments body

theorem splitArrows_chainText {segments : List (List Char)} {body : List Char}
    (hsegments : ∀ segment ∈ segments, NoArrow segment) (hbody : NoArrow body) :
    splitArrows (chainText segments body) = segments ++ [body] := by
  induction segments with
  | nil => exact splitArrows_of_noArrow hbody
  | cons segment segments ih =>
    rw [chainText, splitArrows_append (hsegments segment (by simp)),
      ih fun other hother => hsegments other (by simp [hother]), List.cons_append]

theorem trimLater_append (segments : List (List Char)) (body : List Char) :
    trimLater (segments ++ [body]) = segments.map trim ++ [trimStart body] := by
  induction segments with
  | nil => rfl
  | cons segment segments ih =>
    cases segments with
    | nil => rfl
    | cons next segments =>
      simp only [List.cons_append, List.map_cons] at ih ⊢
      rw [trimLater, ih]
      simp

theorem sections_chainText {segment : List Char} {segments : List (List Char)}
    {body : List Char} (hsegments : ∀ other ∈ segment :: segments, NoArrow other)
    (hbody : NoArrow body) :
    sections (chainText (segment :: segments) body) =
      trimEnd segment :: (segments.map trim ++ [trimStart body]) := by
  rw [sections, splitArrows_chainText hsegments hbody, List.cons_append]
  cases segments with
  | nil => rfl
  | cons next segments =>
    simp only [List.cons_append]
    rw [← List.cons_append, trimLater_append]

theorem readChain_cons {text own : String} {segment next : List Char}
    {rest : List (List Char)} (hrest : rest ≠ []) :
    readChain text own (segment :: next :: rest) = (do
      let inner ← readChain text (stageText (next :: rest)) (next :: rest)
      let parameters ← readParameters text segment
      pure (.stage own .arrow parameters inner)) := by
  cases rest with
  | nil => exact absurd rfl hrest
  | cons third rest =>
    rw [readChain] <;> simp

/-- Pieces whose parameter lists are read well make a chain of those lists. -/
theorem readChain_of_forall₂ {text : String} (body : List Char) {names : List (List String)}
    {segments : List (List Char)}
    (h : List.Forall₂ (fun ps segment => readParameters text segment = .ok ps) names segments)
    (hne : segments ≠ []) (own : String) :
    ∃ s, readChain text own (segments ++ [body]) = .ok s ∧ s.text = own ∧ s.form = .arrow ∧
      s.parameterLists = names ∧ s.finalBody = String.ofList body := by
  induction h generalizing own with
  | nil => exact absurd rfl hne
  | @cons ps segment names segments hps hrest ih =>
    cases segments with
    | nil =>
      cases hrest
      refine ⟨.last own .arrow ps (String.ofList body), ?_, rfl, rfl, rfl, rfl⟩
      simp only [List.cons_append, List.nil_append, readChain, hps]
      rfl
    | cons next segments =>
      obtain ⟨inner, hinner, -, -, hlists, hfinal⟩ :=
        ih (by simp) (stageText (next :: (segments ++ [body])))
      refine ⟨.stage own .arrow ps inner, ?_, rfl, rfl, by rw [parameterLists, hlists], hfinal⟩
      rw [List.cons_append] at hinner
      rw [List.cons_append, List.cons_append, readChain_cons (by simp), hinner, hps]
      rfl

theorem noArrow_of_spells {names : List String} {segment : List Char}
    (h : Spells names segment) (hnames : IsParameterList names) : NoArrow segment := by
  have key : ∀ c ∈ segment, c ≠ '-' := by
    have hword : ∀ name ∈ names, ∀ c ∈ name.toList, c ≠ '-' := by
      rintro name hname c hc rfl
      have := isIdentifierRest_of_mem (isParameterName_iff.1 (hnames.allowed name hname)).1 _ hc
      exact absurd this (by decide)
    have hgaps : ∀ c, isSeparator c = true → c ≠ '-' := by
      rintro c hc rfl
      exact absurd hc (by decide)
    clear hnames
    induction h with
    | done hgap => exact fun c hc => hgaps c (hgap c hc)
    | name hgap _ _ ih =>
      intro c hc
      rw [List.mem_append, List.mem_append] at hc
      rcases hc with (hc | hc) | hc
      · exact hgaps c (hgap c hc)
      · exact hword _ (by simp) c hc
      · exact ih (fun n hn => hword n (by simp [hn])) c hc
  exact fun hin => key '-' (hin.subset (by simp)) rfl

/-- A text that writes parameter lists and a body with arrows between them. -/
structure Writes (text : String) (names : List (List String)) (body : List Char) : Prop where
  ne_nil : names ≠ []
  lists : ∀ ps ∈ names, IsParameterList ps
  noArrow : NoArrow body
  spelled : ∃ segments, List.Forall₂ Spells names segments ∧
    text.toList = chainText segments body

theorem noArrow_of_forall₂ {names : List (List String)} {segments : List (List Char)}
    (h : List.Forall₂ (fun ps segment => IsParameterList ps ∧ Spells ps segment) names segments) :
    ∀ segment ∈ segments, NoArrow segment := by
  induction h with
  | nil => simp
  | cons hps _ ih => exact List.forall_mem_cons.2 ⟨noArrow_of_spells hps.2 hps.1, ih⟩

/-- What is read from a text with arrows: its segments without blanks around them, and the body
without blanks in front. -/
theorem read_chainText {text : String} {segments : List (List Char)} {body : List Char}
    (hne : segments ≠ []) (hsegments : ∀ segment ∈ segments, NoArrow segment)
    (hbody : NoArrow body) (htext : text.toList = chainText segments body)
    (operandName receiver : List Char) :
    ∃ trimmed, trimmed ≠ [] ∧
      trimmed.map parameterTokens = segments.map parameterTokens ∧
      read operandName receiver text = readChain text text (trimmed ++ [trimStart body]) := by
  obtain ⟨segment, segments, rfl⟩ := List.exists_cons_of_ne_nil hne
  refine ⟨trimEnd segment :: segments.map trim, by simp, ?_, ?_⟩
  · simp [parameterTokens_trimEnd, parameterTokens_trim]
  · rw [read, htext, sections_chainText hsegments hbody]
    cases segments <;> rfl

theorem readParameters_of_lists {text : String} {segments : List (List Char)}
    (h : ∀ row ∈ segments.map parameterTokens, IsParameterList row) :
    List.Forall₂ (fun row segment => readParameters text segment = .ok row)
      (segments.map parameterTokens) segments := by
  rw [List.forall₂_map_left_iff, List.forall₂_same]
  exact fun segment hsegment =>
    readParameters_of_tokens rfl (h _ (List.mem_map_of_mem hsegment))

/-- Rows of names that segments write are the tokens of these segments. -/
theorem eq_map_parameterTokens {names : List (List String)} {segments : List (List Char)}
    (h : List.Forall₂ (fun row segment => (∀ name ∈ row, IsToken name) ∧ Spells row segment)
      names segments) : names = segments.map parameterTokens := by
  rw [← List.forall₂_eq_eq_eq, List.forall₂_map_right_iff]
  exact h.imp fun row segment hrow => (parameterTokens_of_spells hrow.2 hrow.1).symm

theorem read_of_writes {text : String} {names : List (List String)} {body : List Char}
    (h : Writes text names body) (operandName receiver : List Char) :
    ∃ s, read operandName receiver text = .ok s ∧ s.text = text ∧ s.form = .arrow ∧
      s.parameterLists = names ∧ s.finalBody = String.ofList (trimStart body) := by
  obtain ⟨segments, hspelled, htext⟩ := h.spelled
  have hlists := (List.forall₂_and_left _ _).2 ⟨h.lists, hspelled⟩
  have hnames := eq_map_parameterTokens (hlists.imp fun _ _ hrow => ⟨hrow.1.isToken, hrow.2⟩)
  have hne : segments ≠ [] := by
    rintro rfl
    exact h.ne_nil hnames
  obtain ⟨trimmed, htrimmed, htokens, hread⟩ := read_chainText hne (noArrow_of_forall₂ hlists)
    h.noArrow htext operandName receiver
  rw [← htokens] at hnames
  subst hnames
  rw [hread]
  exact readChain_of_forall₂ _ (readParameters_of_lists h.lists) htrimmed text

end LambdaText.Source
