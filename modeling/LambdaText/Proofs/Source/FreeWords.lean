import LambdaText.Proofs.Source.Spans

/-!
# Words that stand free

A word stands free in a text if it is a maximal run of word characters outside of literals that
starts like a name, behind no point and before no colon. A text is sifted for such words from one
edge of a word to the next: over characters in which none of them starts, or over one of them.
What a sifting finds stands free, is listed in order, and is all that does.
-/

namespace LambdaText.Source

open LambdaText.Text

/-! ### Words that stand free -/

/-- The characters of a span, each with whether it stands outside of literals. -/
def Span.marked : Span → List (Char × Bool)
  | outside c => [(c, true)]
  | literal marks q content => (literal marks q content).chars.map (·, false)

/-- The characters of a text, each with whether it stands outside of literals. -/
def marked (spans : List Span) : List (Char × Bool) := spans.flatMap Span.marked

/-- A word that may become a parameter, given the characters before and after. -/
structure IsFreeWord (receiver : List Char) (before : Option Char) (word : List Char)
    (after : Option Char) : Prop where
  allWord : ∀ c ∈ word, isWordChar c = true
  start : ∃ c, word.head? = some c ∧ ('a' ≤ c ∧ c ≤ 'z' ∨ c = '_')
  notReserved : isReserved (String.ofList word) = false
  ne_receiver : word ≠ receiver
  edgeBefore : before.any isWordChar = false
  edgeAfter : after.any isWordChar = false
  noPoint : before ≠ some '.'
  noColon : after ≠ some ':'

/-- A word stands free among marked characters that come behind `front`, and `ahead` is all that
comes before it. -/
def FreeAt (receiver front : List Char) (marks : List (Char × Bool)) (ahead word : List Char) :
    Prop :=
  ∃ before after, marks = before ++ word.map (·, true) ++ after ∧
    ahead = front ++ before.map Prod.fst ∧
    IsFreeWord receiver ahead.getLast? word (after.map Prod.fst).head?

variable {receiver front ahead word rest : List Char} {marks : List (Char × Bool)}

theorem Scans.map_fst_marked {before : Option Char} {text : List Char} {spans : List Span}
    (h : Scans before text spans) : (marked spans).map Prod.fst = text := by
  rw [h.chars_eq, marked, List.map_flatMap]
  congr 1
  ext1 span
  cases span <;> simp [Span.marked, Span.chars, Function.comp_def]

theorem IsFreeWord.ne_nil {before after : Option Char}
    (h : IsFreeWord receiver before word after) : word ≠ [] := by
  rintro rfl
  obtain ⟨c, hc, -⟩ := h.start
  cases hc

theorem FreeAt.le (h : FreeAt receiver front marks ahead word) : front.length ≤ ahead.length := by
  obtain ⟨before, after, -, rfl, -⟩ := h
  simp

theorem FreeAt.append {skipped : List (Char × Bool)}
    (h : FreeAt receiver (front ++ skipped.map Prod.fst) marks ahead word) :
    FreeAt receiver front (skipped ++ marks) ahead word := by
  obtain ⟨before, after, rfl, rfl, hfree⟩ := h
  exact ⟨skipped ++ before, after, by simp, by simp, hfree⟩

/-- A word that stands free, and not within the first characters, stands free behind them. -/
theorem FreeAt.of_append {skipped : List (Char × Bool)}
    (h : FreeAt receiver front (skipped ++ marks) ahead word)
    (hle : front.length + skipped.length ≤ ahead.length) :
    FreeAt receiver (front ++ skipped.map Prod.fst) marks ahead word := by
  obtain ⟨before, after, hmarks, rfl, hfree⟩ := h
  have hshorter : skipped.length ≤ before.length := by simpa using hle
  have hin : before <+: skipped ++ marks := ⟨_, (hmarks.trans (List.append_assoc ..)).symm⟩
  obtain ⟨between, rfl⟩ :=
    List.prefix_of_prefix_length_le (List.prefix_append skipped marks) hin hshorter
  rw [List.append_assoc, List.append_assoc, List.append_cancel_left_eq, ← List.append_assoc]
    at hmarks
  exact ⟨between, after, hmarks, by simp, hfree⟩

/-! ### Runs -/

theorem getLast?_run {run : List Char} (hrun : ∀ c ∈ run, isWordChar c = true) (hne : run ≠ []) :
    run.getLast?.any isWordChar = true := by
  rw [List.getLast?_eq_some_getLast hne]
  exact hrun _ (List.getLast_mem hne)

theorem IsFreeWord.eq_nil_of_run {run a after : List Char}
    (h : IsFreeWord receiver (front ++ a).getLast? word after.head?)
    (hrun : ∀ c ∈ run, isWordChar c = true) (htext : run ++ rest = a ++ word ++ after)
    (hle : a.length ≤ run.length) : a = [] := by
  by_contra hne
  have hin : a <+: run ++ rest := ⟨word ++ after, (htext.trans (List.append_assoc ..)).symm⟩
  have ha : a <+: run := List.prefix_of_prefix_length_le hin (List.prefix_append run rest) hle
  have hlast := getLast?_run (fun c hc => hrun c (ha.subset hc)) hne
  rw [← List.getLast?_append_of_ne_nil front hne, h.edgeBefore] at hlast
  cases hlast

theorem takeWhile_run {run rest : List Char} (hrun : ∀ c ∈ run, isWordChar c = true)
    (hrest : rest.head?.any isWordChar = false) : (run ++ rest).takeWhile isWordChar = run := by
  rw [List.takeWhile_append_of_pos hrun]
  cases rest <;> simp_all

theorem IsFreeWord.eq_run {before : Option Char} {run after : List Char}
    (h : IsFreeWord receiver before word after.head?)
    (hrun : ∀ c ∈ run, isWordChar c = true) (hrest : rest.head?.any isWordChar = false)
    (htext : run ++ rest = word ++ after) : word = run := by
  rw [← takeWhile_run h.allWord h.edgeAfter, ← htext, takeWhile_run hrun hrest]

/-! ### Sifting -/

/-- How marked characters behind `front` are sifted: over characters in which no word that stands
free starts, if the sifting is `exact`, and up to the next word that stands free. What has been
found is listed with what comes before it. -/
inductive Sifts (receiver : List Char) (exact : Prop) :
    List Char → List (Char × Bool) → List (List Char × List Char) → Prop
  | done (front : List Char) : Sifts receiver exact front [] []
  | skip {front : List Char} {skipped marks : List (Char × Bool)}
      {found : List (List Char × List Char)}
      (hnone : exact → ∀ ahead word, FreeAt receiver front (skipped ++ marks) ahead word →
        front.length + skipped.length ≤ ahead.length)
      (h : Sifts receiver exact (front ++ skipped.map Prod.fst) marks found) :
      Sifts receiver exact front (skipped ++ marks) found
  | keep {front word : List Char} {marks : List (Char × Bool)}
      {found : List (List Char × List Char)}
      (hword : IsFreeWord receiver front.getLast? word (marks.map Prod.fst).head?)
      (h : Sifts receiver exact (front ++ word) marks found) :
      Sifts receiver exact front (word.map (·, true) ++ marks) ((front, word) :: found)

variable {exact : Prop} {found : List (List Char × List Char)}

theorem map_fst_outside (word : List Char) :
    (word.map fun c => (c, true)).map Prod.fst = word := by
  simp [Function.comp_def]

/-- Only words that stand free are found. -/
theorem Sifts.sound (h : Sifts receiver exact front marks found) :
    ∀ p ∈ found, FreeAt receiver front marks p.1 p.2 := by
  induction h with
  | done => simp
  | skip _ _ ih => exact fun p hp => (ih p hp).append
  | @keep front word marks found hword _ ih =>
    refine List.forall_mem_cons.2 ⟨⟨[], marks, rfl, by simp, hword⟩, fun p hp => ?_⟩
    refine FreeAt.append ?_
    rw [map_fst_outside]
    exact ih p hp

/-- What is found is listed in the order in which it stands. -/
theorem Sifts.ordered (h : Sifts receiver exact front marks found) :
    found.Pairwise fun p q => p.1.length < q.1.length := by
  induction h with
  | done => exact .nil
  | skip _ _ ih => exact ih
  | keep hword h ih =>
    refine .cons (fun q hq => ?_) ih
    have hle := (h.sound q hq).le
    have hpos := List.length_pos_iff.2 hword.ne_nil
    rw [List.length_append] at hle
    exact Nat.lt_of_lt_of_le (Nat.lt_add_of_pos_right hpos) hle

theorem Sifts.complete (h : Sifts receiver exact front marks found) (hexact : exact)
    (hfree : FreeAt receiver front marks ahead word) : (ahead, word) ∈ found := by
  induction h with
  | done =>
    obtain ⟨before, after, hmarks, -, hword⟩ := hfree
    refine absurd ?_ hword.ne_nil
    simp_all
  | skip hnone _ ih => exact ih (hfree.of_append (hnone hexact _ _ hfree))
  | @keep front run marks found hrun h ih =>
    by_cases hle : front.length + run.length ≤ ahead.length
    · refine List.mem_cons_of_mem _ (ih ?_)
      rw [← map_fst_outside run]
      exact hfree.of_append (by simpa using hle)
    · obtain ⟨before, after, hmarks, rfl, hword⟩ := hfree
      have htext := congrArg (List.map Prod.fst) hmarks
      simp only [List.map_append, map_fst_outside] at htext
      have hnil := hword.eq_nil_of_run hrun.allWord htext (by simp at hle ⊢; omega)
      rw [hnil] at htext hword ⊢
      rw [List.append_nil] at hword ⊢
      rw [List.nil_append] at htext
      rw [hword.eq_run hrun.allWord hrun.edgeAfter htext]
      exact List.mem_cons_self

end LambdaText.Source
