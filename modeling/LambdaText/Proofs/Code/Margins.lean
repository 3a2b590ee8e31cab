import LambdaText.Proofs.Code.Padding

/-!
# Texts in a block

A text that is put into a block behind the start of a line has other margins there, and is otherwise
the same.
-/

namespace LambdaText.Code

open LambdaText.Text

/-! ### Line breaks made one -/

theorem unifyBreaks_cons {c : Char} (hc : c ≠ '\r') (text : List Char) :
    unifyBreaks (c :: text) = c :: unifyBreaks text := by
  rw [unifyBreaks]
  · rintro rest rfl
    exact absurd rfl hc
  · rintro rfl
    exact absurd rfl hc

theorem unifyBreaks_return {text : List Char} (h : text.head? ≠ some '\n') :
    unifyBreaks ('\r' :: text) = '\n' :: unifyBreaks text := by
  rw [unifyBreaks]
  rintro rest rfl
  exact h rfl

theorem unifyBreaks_append {front : List Char} (h : '\r' ∉ front) (text : List Char) :
    unifyBreaks (front ++ text) = front ++ unifyBreaks text := by
  induction front with
  | nil => rfl
  | cons c front ih =>
    simp only [List.mem_cons, not_or] at h
    rw [List.cons_append, unifyBreaks_cons (Ne.symm h.1), ih h.2, List.cons_append]

theorem unifyBreaks_line {line : List Char} (h : '\r' ∉ line) : unifyBreaks line = line := by
  simpa [unifyBreaks] using unifyBreaks_append h []

theorem unifyBreaks_append_cons {c : Char} (hc : c ≠ '\n') (front text : List Char) :
    unifyBreaks (front ++ c :: text) = unifyBreaks front ++ unifyBreaks (c :: text) := by
  induction hn : front.length using Nat.strong_induction_on generalizing front with
  | _ n ih =>
    subst hn
    cases front with
    | nil => rfl
    | cons d front =>
      by_cases hd : d = '\r'
      · subst hd
        rcases return_or_break '\r' front with ⟨rest, -, rfl⟩ | hreturn
        · exact congrArg ('\n' :: ·) (ih _ (Nat.lt_succ_of_lt (Nat.lt_succ_self _)) rest rfl)
        · have hhead : (front ++ c :: text).head? ≠ some '\n' := by
            cases front with
            | nil => simpa using hc
            | cons e front => exact hreturn rfl
          rw [List.cons_append, unifyBreaks_return hhead, unifyBreaks_return (hreturn rfl),
            ih _ (Nat.lt_succ_self _) front rfl, List.cons_append]
      · rw [List.cons_append, unifyBreaks_cons hd, unifyBreaks_cons hd,
          ih _ (Nat.lt_succ_self _) front rfl, List.cons_append]

/-- A line feed stays behind a text that does not end with a carriage return. -/
theorem unifyBreaks_feed {c : Char} {line : List Char}
    (hline : ∀ d ∈ c :: line, isLineBreak d = false) (front rest : List Char) :
    unifyBreaks (front ++ c :: line ++ '\n' :: rest) =
      unifyBreaks (front ++ c :: line) ++ '\n' :: unifyBreaks rest := by
  have hfeed : c ≠ '\n' := by
    rintro rfl
    cases hline '\n' (by simp)
  have hreturn : '\r' ∉ c :: line := fun hin => nomatch hline _ hin
  rw [List.append_assoc, List.cons_append, unifyBreaks_append_cons hfeed,
    unifyBreaks_append_cons hfeed, ← List.cons_append, unifyBreaks_append hreturn,
    unifyBreaks_line hreturn, List.append_assoc]
  rfl

theorem firstLine_unifyBreaks (text : List Char) :
    firstLine (unifyBreaks text) = firstLine text := by
  induction text with
  | nil => rfl
  | cons c text ih =>
    cases hc : isLineBreak c with
    | false =>
      have hne : c ≠ '\r' := by
        rintro rfl
        cases hc
      rw [unifyBreaks_cons hne, firstLine_cons hc, firstLine_cons hc, ih]
    | true =>
      rw [firstLine_break hc]
      rcases return_or_break c text with ⟨rest, rfl, rfl⟩ | hreturn
      · rfl
      · by_cases hne : c = '\r'
        · subst hne
          rw [unifyBreaks_return (hreturn rfl)]
          rfl
        · rw [unifyBreaks_cons hne, firstLine_break hc]

theorem firstLine_clearRest (text : List Char) : firstLine (clearRest text) = firstLine text := by
  induction text with
  | nil => rfl
  | cons c text ih =>
    by_cases hfeed : c = '\n'
    · subst hfeed
      rw [clearRest_feed]
      rfl
    · rw [clearRest_cons hfeed]
      cases hc : isLineBreak c with
      | false => rw [firstLine_cons hc, firstLine_cons hc, ih]
      | true => rw [firstLine_break hc, firstLine_break hc]

theorem firstLine_append (text rest : List Char) : firstLine text <+: firstLine (text ++ rest) := by
  induction text with
  | nil => exact List.nil_prefix
  | cons c text ih =>
    rw [List.cons_append]
    cases hc : isLineBreak c with
    | false =>
      rw [firstLine_cons hc, firstLine_cons hc]
      exact List.cons_prefix_cons.2 ⟨rfl, ih⟩
    | true =>
      rw [firstLine_break hc]
      exact List.nil_prefix

/-! ### A text in a block -/

/-- Whether no blank stands at the end of a text. -/
def EndsInContent (text : List Char) : Prop :=
  ∀ front c, text = front ++ [c] → isBlank c = false

theorem EndsInContent.of_append {front text : List Char} (h : EndsInContent (front ++ text)) :
    EndsInContent text := by
  rintro front' c rfl
  exact h (front ++ front') c (List.append_assoc _ _ _).symm

section Block

variable {margin trail : List Char} (hmargin : ∀ c ∈ margin, isMarginChar c = true)
  (hne : margin ≠ [])
include hmargin hne

/-- A line of a block with a margin on it. -/
theorem Repads.indent {b : Char} (hb : isLineBreak b = true) {text : List Char}
    (h : Repads (unifyBreaks text) (unifyBreaks (indentRest margin (clearRest (text ++ trail))))) :
    Repads (b :: unifyBreaks text)
      (b :: unifyBreaks (Text.indent margin (clearRest (text ++ trail)))) := by
  rw [indent_eq, firstLine_clearRest]
  split
  · next hblank =>
    have hprefix : (firstLine (unifyBreaks text)).all isBlank = true := by
      rw [firstLine_unifyBreaks]
      exact List.all_eq_true.2 fun c hc =>
        List.all_eq_true.1 hblank c ((firstLine_append text trail).subset hc)
    exact @Repads.line b [] [] _ _ hb (by simp) (by simp) (.inr hprefix) h
  · rw [unifyBreaks_append]
    · exact @Repads.line b [] margin _ _ hb (by simp) hmargin (.inl (Ne.symm hne)) h
    · intro hin
      cases hmargin _ hin

theorem head?_indent {text : List Char} (h : text.head? ≠ some '\n') :
    (Text.indent margin text).head? ≠ some '\n' := by
  rw [indent_eq]
  split
  · rwa [head?_indentRest]
  · cases margin with
    | nil => exact absurd rfl hne
    | cons c margin =>
      intro hhead
      cases hmargin '\n' (by simp_all)

/-- The lines behind a line feed, of which the first one may be margin alone. -/
theorem Repads.indent_feed {text : List Char} (hend : EndsInContent ('\n' :: text))
    (ih : ∀ rest, rest.length ≤ text.length → EndsInContent rest →
      Repads (unifyBreaks rest) (unifyBreaks (indentRest margin (clearRest (rest ++ trail))))) :
    Repads ('\n' :: unifyBreaks text)
      ('\n' :: unifyBreaks (Text.indent margin (clearRest (clearFront (text ++ trail))))) := by
  have hend' : EndsInContent text := @EndsInContent.of_append ['\n'] _ hend
  have hcontent : text.dropWhile isMarginChar ≠ [] := by
    intro hdrop
    rw [List.dropWhile_eq_nil_iff] at hdrop
    rcases List.eq_nil_or_concat text with rfl | ⟨front, c, rfl⟩
    · cases hend [] '\n' rfl
    · rw [List.concat_eq_append] at hdrop hend'
      have hblank := isBlank_of_isMarginChar (hdrop c (by simp))
      rw [hend' front c rfl] at hblank
      cases hblank
  have hdrop : (text ++ trail).dropWhile isMarginChar = text.dropWhile isMarginChar ++ trail := by
    rw [List.dropWhile_append, if_neg (by simpa using hcontent)]
  rw [clearFront, hdrop]
  split
  · next hfeed =>
    -- The line is margin alone, which goes.
    obtain ⟨c, rest, hrest⟩ := List.exists_cons_of_ne_nil hcontent
    rw [hrest] at hfeed
    have hc : c = '\n' := by simpa using hfeed
    subst hc
    have htext : text = text.takeWhile isMarginChar ++ '\n' :: rest := by
      rw [← hrest, List.takeWhile_append_dropWhile]
    have hold : ∀ d ∈ text.takeWhile isMarginChar, isMarginChar d = true :=
      fun d hd => List.mem_takeWhile_imp hd
    generalize text.takeWhile isMarginChar = old at htext hold
    subst htext
    have hlater := ih ('\n' :: rest) (by simp) hend'.of_append
    rw [hrest, indent_eq, firstLine_clearRest, unifyBreaks_append]
    · exact @Repads.line '\n' old [] _ _ rfl hold (by simp) (.inr rfl) hlater
    · intro hin
      cases hold _ hin
  · exact Repads.indent hmargin hne rfl (ih text (Nat.le_refl _) hend')

/-- A text behind the start of a line in a block has other margins and is otherwise the same. -/
theorem repads_indentRest (htrail : ∀ c ∈ trail, isBlank c = true ∧ isLineBreak c = false)
    {text : List Char} (hend : EndsInContent text) :
    Repads (unifyBreaks text) (unifyBreaks (indentRest margin (clearRest (text ++ trail)))) := by
  induction hn : text.length using Nat.strong_induction_on generalizing text with
  | _ n ih =>
    subst hn
    cases text with
    | nil =>
      have hbreak : ∀ c ∈ trail, isLineBreak c = false := fun c hc => (htrail c hc).2
      have hfeed : '\n' ∉ trail := fun hin => nomatch hbreak _ hin
      have hreturn : '\r' ∉ trail := fun hin => nomatch hbreak _ hin
      rw [List.nil_append, clearRest_line hfeed, indentRest_line _ hbreak,
        unifyBreaks_line hreturn]
      exact .done htrail
    | cons c text =>
      have hend' : EndsInContent text := @EndsInContent.of_append [c] _ hend
      have hih : ∀ rest, rest.length ≤ text.length → EndsInContent rest → _ :=
        fun rest hle hrest => ih rest.length (Nat.lt_succ_of_le hle) hrest rfl
      cases hc : isLineBreak c with
      | false =>
        have hfeed : c ≠ '\n' := by
          rintro rfl
          cases hc
        have hreturn : c ≠ '\r' := by
          rintro rfl
          cases hc
        rw [List.cons_append, clearRest_cons hfeed, indentRest_cons hc, unifyBreaks_cons hreturn,
          unifyBreaks_cons hreturn]
        exact .char hc (hih text (Nat.le_refl _) hend')
      | true =>
        rcases return_or_break c text with ⟨rest, rfl, rfl⟩ | hreturn
        -- A carriage return with its line feed, a line feed, a carriage return, and other breaks.
        · rw [List.cons_append, clearRest_cons (by decide), List.cons_append, clearRest_feed,
            indentRest_return]
          exact Repads.indent_feed hmargin hne hend' fun r hle => hih r (Nat.le_succ_of_le hle)
        · by_cases hfeed : c = '\n'
          · subst hfeed
            rw [List.cons_append, clearRest_feed, indentRest_break rfl _ (by simp)]
            exact Repads.indent_feed hmargin hne hend hih
          · have hhead : c = '\r' → (clearRest (text ++ trail)).head? ≠ some '\n' := by
              intro hret
              rw [head?_clearRest]
              cases text with
              | nil =>
                intro hhead
                cases (htrail _ (List.mem_of_head? hhead)).2
              | cons d text => exact hreturn hret
            rw [List.cons_append, clearRest_cons hfeed, indentRest_break hc _ hhead]
            by_cases hret : c = '\r'
            · subst hret
              rw [unifyBreaks_return (hreturn rfl),
                unifyBreaks_return (head?_indent hmargin hne (hhead rfl))]
              exact Repads.indent hmargin hne rfl (hih text (Nat.le_refl _) hend')
            · rw [unifyBreaks_cons hret, unifyBreaks_cons hret]
              exact Repads.indent hmargin hne hc (hih text (Nat.le_refl _) hend')

end Block

end LambdaText.Code
