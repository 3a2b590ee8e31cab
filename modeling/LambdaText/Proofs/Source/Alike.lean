import LambdaText.Proofs.Source.Shapes
import LambdaText.Proofs.Source.Spans
import Mathlib.Data.List.Forall2

/-!
# Arrows and literals

If no literal holds an arrow, texts with the same outline are cut into pieces that are equal or hold
quotes, and so have the same shape. If some literal holds an arrow, the text is cut within the
literal, and the quote before the cut is no part of a parameter list.
-/

namespace LambdaText.Source

open LambdaText.Text

/-- Whether a span could have been found by the scanner. -/
def Span.IsMade : Span → Prop
  | .outside _ => True
  | .literal marks q _ => (∀ c ∈ marks, isLiteralMark c = true) ∧ isQuote q = true

theorem Scans.isMade {before : Option Char} {text : List Char} {spans : List Span}
    (h : Scans before text spans) : ∀ span ∈ spans, span.IsMade := by
  induction h with
  | done => simp
  | outside _ _ ih => exact List.forall_mem_cons.2 ⟨trivial, ih⟩
  | literal hmarks hquote _ _ ih => exact List.forall_mem_cons.2 ⟨⟨hmarks, hquote⟩, ih⟩

/-- Pieces that are equal, or both hold a quote. -/
def Alike (piece other : List Char) : Prop :=
  piece = other ∨ (∃ q ∈ piece, isQuote q = true) ∧ ∃ q ∈ other, isQuote q = true

theorem Alike.cons {piece other : List Char} (h : Alike piece other) (c : Char) :
    Alike (c :: piece) (c :: other) := by
  rcases h with rfl | ⟨⟨q, hq, hquote⟩, q', hq', hquote'⟩
  · exact .inl rfl
  · exact .inr ⟨⟨q, List.mem_cons_of_mem c hq, hquote⟩, q', List.mem_cons_of_mem c hq', hquote'⟩

/-! ### Where arrows lie -/

theorem ne_of_mark {c d : Char} (hc : isLiteralMark c = true) (hd : isWordChar d = false) :
    c ≠ d := by
  rintro rfl
  rw [isWordChar_of_mark hc] at hd
  cases hd

theorem ne_of_quote {c d : Char} (hc : isQuote c = true) (hd : isQuote d = false) : c ≠ d := by
  rintro rfl
  rw [hc] at hd
  cases hd

/-- An arrow does not lie over the edge of a literal. -/
theorem noArrow_literal {marks content : List Char} {q : Char}
    (hmarks : ∀ c ∈ marks, isLiteralMark c = true) (hquote : isQuote q = true)
    (hcontent : NoArrow content) : NoArrow (marks ++ q :: (content ++ [q])) := by
  have hline : ∀ c ∈ marks, c ≠ '-' := fun c hc => ne_of_mark (hmarks c hc) (by decide)
  have hq : q ≠ '-' ∧ q ≠ '>' :=
    ⟨ne_of_quote hquote (by decide), ne_of_quote hquote (by decide)⟩
  have hmarks : NoArrow marks := noArrow_of_not_mem fun hmem => hline _ hmem rfl
  have hone : NoArrow [q] := noArrow_of_not_mem (by simpa using hq.1.symm)
  have hinner := noArrow_append hcontent hone (.inr (by simpa using hq.2.symm))
  have hbody := noArrow_append hone hinner (.inl (by simpa using hq.1.symm))
  exact noArrow_append hmarks hbody (.inl fun hmem => hline _ hmem rfl)

/-- What has no arrow and does not end with the start of one belongs to the first piece. -/
theorem splitArrows_append_left {front : List Char} (hfront : NoArrow front)
    (hlast : front.getLast? ≠ some '-') {text piece : List Char} {pieces : List (List Char)}
    (h : splitArrows text = piece :: pieces) :
    splitArrows (front ++ text) = (front ++ piece) :: pieces := by
  induction front with
  | nil => exact h
  | cons c front ih =>
    have htail : front.getLast? ≠ some '-' := by
      intro heq
      rw [List.getLast?_cons, heq] at hlast
      exact hlast rfl
    refine splitArrows_cons (fun hin => ?_) (ih hfront.tail htail)
    have hin : ['-', '>'] <+: (c :: front) ++ text := hin
    rcases prefix_append_cases hin with hin | ⟨hc, -⟩ | ⟨hc, -⟩
    · exact hfront hin.isInfix
    · rw [hc] at hlast
      exact hlast rfl
    · cases hc

theorem head_flatMap_chars {spans : List Span} (hmade : ∀ span ∈ spans, span.IsMade)
    (h : (spans.flatMap Span.chars).head? = some '>') :
    ∃ rest, spans = .outside '>' :: rest := by
  cases spans with
  | nil => cases h
  | cons span spans =>
    rw [List.flatMap_cons] at h
    cases span with
    | outside c =>
      simp only [Span.chars, List.singleton_append, List.head?_cons, Option.some.injEq] at h
      exact ⟨spans, by rw [h]⟩
    | literal marks q content =>
      obtain ⟨hmarks, hquote⟩ := hmade _ List.mem_cons_self
      cases marks with
      | nil =>
        simp only [Span.chars, List.nil_append, List.cons_append, List.head?_cons,
          Option.some.injEq] at h
        exact absurd h (ne_of_quote hquote (by decide))
      | cons a marks =>
        simp only [Span.chars, List.cons_append, List.head?_cons, Option.some.injEq] at h
        exact absurd h (ne_of_mark (hmarks a List.mem_cons_self) (by decide))

theorem eq_outside_of_outline {c : Char} {span : Span} (h : span.outline = .outside c) :
    span = .outside c := by
  cases span with
  | outside d => exact h
  | literal marks q content => cases h

theorem eq_literal_of_outline {marks content : List Char} {q : Char} {span : Span}
    (h : span.outline = Span.outline (.literal marks q content)) :
    ∃ content', span = .literal marks q content' := by
  cases span with
  | outside d => cases h
  | literal marks' q' content' =>
    cases h
    exact ⟨content', rfl⟩

/-- A character in front belongs to the first piece on both sides. -/
theorem Alike.splitArrows_cons {c : Char} {text other : List Char}
    (hc : ¬ ['-', '>'] <+: c :: text) (hc' : ¬ ['-', '>'] <+: c :: other)
    (h : List.Forall₂ Alike (splitArrows text) (splitArrows other)) :
    List.Forall₂ Alike (splitArrows (c :: text)) (splitArrows (c :: other)) := by
  obtain ⟨piece, pieces, hpieces⟩ := List.exists_cons_of_ne_nil (splitArrows_ne_nil text)
  obtain ⟨piece', pieces', hothers⟩ := List.exists_cons_of_ne_nil (splitArrows_ne_nil other)
  rw [hpieces, hothers, List.forall₂_cons] at h
  rw [Source.splitArrows_cons hc hpieces, Source.splitArrows_cons hc' hothers]
  exact .cons (h.1.cons c) h.2

/-- A literal in front belongs to the first piece on both sides. -/
theorem Alike.splitArrows_literal {marks content content' text other : List Char} {q : Char}
    (hmarks : ∀ c ∈ marks, isLiteralMark c = true) (hquote : isQuote q = true)
    (hcontent : NoArrow content) (hcontent' : NoArrow content')
    (h : List.Forall₂ Alike (splitArrows text) (splitArrows other)) :
    List.Forall₂ Alike (splitArrows (marks ++ q :: (content ++ [q]) ++ text))
      (splitArrows (marks ++ q :: (content' ++ [q]) ++ other)) := by
  have hlast : ∀ inner : List Char, (marks ++ q :: (inner ++ [q])).getLast? ≠ some '-' := by
    intro inner heq
    rw [← List.cons_append, ← List.append_assoc, List.getLast?_concat, Option.some.injEq] at heq
    exact ne_of_quote hquote (by decide) heq
  have hmem : ∀ inner piece : List Char, q ∈ marks ++ q :: (inner ++ [q]) ++ piece := by simp
  obtain ⟨piece, pieces, hpieces⟩ := List.exists_cons_of_ne_nil (splitArrows_ne_nil text)
  obtain ⟨piece', pieces', hothers⟩ := List.exists_cons_of_ne_nil (splitArrows_ne_nil other)
  rw [hpieces, hothers, List.forall₂_cons] at h
  rw [splitArrows_append_left (noArrow_literal hmarks hquote hcontent) (hlast _) hpieces,
    splitArrows_append_left (noArrow_literal hmarks hquote hcontent') (hlast _) hothers]
  exact .cons (.inr ⟨⟨q, hmem _ _, hquote⟩, q, hmem _ _, hquote⟩) h.2

/-- Texts with the same outline and no arrows in literals are cut into pieces that are alike. -/
theorem splitArrows_alike {spans others : List Span}
    (hsame : spans.map Span.outline = others.map Span.outline)
    (hmade : ∀ span ∈ spans, span.IsMade) (hmade' : ∀ span ∈ others, span.IsMade)
    (hfree : ∀ content ∈ contents spans, NoArrow content)
    (hfree' : ∀ content ∈ contents others, NoArrow content) :
    List.Forall₂ Alike (splitArrows (spans.flatMap Span.chars))
      (splitArrows (others.flatMap Span.chars)) := by
  -- An arrow takes two characters, so the step may take two spans.
  induction hlength : spans.length using Nat.strong_induction_on generalizing spans others with
  | _ size ih =>
    subst hlength
    cases spans with
    | nil =>
      cases List.map_eq_nil_iff.1 hsame.symm
      exact .cons (.inl rfl) .nil
    | cons span spans =>
      cases others with
      | nil => cases hsame
      | cons span' others =>
        obtain ⟨hspan, hrest⟩ := List.cons.inj hsame
        rw [List.forall_mem_cons] at hmade hmade'
        cases span with
        | outside c =>
          cases eq_outside_of_outline hspan.symm
          by_cases harrow : c = '-' ∧ ∃ rest, spans = .outside '>' :: rest
          · obtain ⟨rfl, rest, rfl⟩ := harrow
            cases others with
            | nil => cases hrest
            | cons next others =>
              obtain ⟨hnext, hrest'⟩ := List.cons.inj hrest
              cases eq_outside_of_outline hnext.symm
              rw [List.forall_mem_cons] at hmade hmade'
              have hcut : ∀ later : List Span, splitArrows
                  ((Span.outside '-' :: .outside '>' :: later).flatMap Span.chars) =
                    [] :: splitArrows (later.flatMap Span.chars) := fun _ => splitArrows_arrow _
              have hshorter : rest.length < (Span.outside '-' :: .outside '>' :: rest).length := by
                simp only [List.length_cons]
                omega
              rw [hcut, hcut]
              exact .cons (.inl rfl)
                (ih rest.length hshorter hrest' hmade.2.2 hmade'.2.2 hfree hfree' rfl)
          · have hnone : ∀ {later : List Span}, (∀ span ∈ later, span.IsMade) →
                later.map Span.outline = spans.map Span.outline →
                ¬ ['-', '>'] <+: c :: later.flatMap Span.chars := by
              rintro later hlater houtline ⟨after, heq⟩
              simp only [List.cons_append, List.nil_append, List.cons.injEq] at heq
              obtain ⟨rfl, heq⟩ := heq
              obtain ⟨rest, rfl⟩ := head_flatMap_chars hlater (by rw [← heq]; rfl)
              refine harrow ⟨rfl, ?_⟩
              cases spans with
              | nil => cases houtline
              | cons span spans =>
                cases eq_outside_of_outline (List.cons.inj houtline).1.symm
                exact ⟨spans, rfl⟩
            exact Alike.splitArrows_cons (hnone hmade.2 rfl) (hnone hmade'.2 hrest.symm)
              (ih spans.length (by simp) hrest hmade.2 hmade'.2 hfree hfree' rfl)
        | literal marks q content =>
          obtain ⟨content', rfl⟩ := eq_literal_of_outline hspan.symm
          rw [contents_literal, List.forall_mem_cons] at hfree hfree'
          exact Alike.splitArrows_literal hmade.1.1 hmade.1.2 hfree.1 hfree'.1
            (ih spans.length (by simp) hrest hmade.2 hmade'.2 hfree.2 hfree'.2 rfl)

/-! ### Pieces without blanks -/

theorem mem_dropWhile_blank {text : List Char} {c : Char} (h : c ∈ text) (hc : isBlank c = false) :
    c ∈ text.dropWhile isBlank := by
  induction text with
  | nil => cases h
  | cons d text ih =>
    rw [List.dropWhile_cons]
    split
    · next hd =>
      rcases List.mem_cons.1 h with rfl | h
      · rw [hc] at hd
        cases hd
      · exact ih h
    · exact h

theorem mem_trimStart {text : List Char} {c : Char} (h : c ∈ text) (hc : isBlank c = false) :
    c ∈ trimStart text := mem_dropWhile_blank h hc

theorem mem_trimEnd {text : List Char} {c : Char} (h : c ∈ text) (hc : isBlank c = false) :
    c ∈ trimEnd text := by
  rw [trimEnd, List.mem_reverse]
  exact mem_dropWhile_blank (List.mem_reverse.2 h) hc

theorem mem_trim {text : List Char} {c : Char} (h : c ∈ text) (hc : isBlank c = false) :
    c ∈ trim text := mem_trimEnd (mem_trimStart h hc) hc

/-- What keeps all characters but blanks keeps pieces alike. -/
theorem Alike.map {f : List Char → List Char}
    (hf : ∀ {text c}, c ∈ text → isBlank c = false → c ∈ f text) {piece other : List Char}
    (h : Alike piece other) : Alike (f piece) (f other) := by
  rcases h with rfl | ⟨⟨q, hq, hquote⟩, q', hq', hquote'⟩
  · exact .inl rfl
  · exact .inr ⟨⟨q, hf hq (isBlank_of_quote hquote), hquote⟩, q',
      hf hq' (isBlank_of_quote hquote'), hquote'⟩

theorem trimLater_alike {pieces others : List (List Char)}
    (h : List.Forall₂ Alike pieces others) :
    List.Forall₂ Alike (trimLater pieces) (trimLater others) := by
  induction h with
  | nil => exact .nil
  | cons hone hrest ih =>
    cases hrest with
    | nil => exact .cons (hone.map mem_trimStart) .nil
    | cons hnext hrest => exact .cons (hone.map mem_trim) ih

theorem sections_alike {text other : List Char}
    (h : List.Forall₂ Alike (splitArrows text) (splitArrows other)) :
    List.Forall₂ Alike (sections text) (sections other) := by
  rw [sections, sections]
  revert h
  generalize splitArrows text = pieces
  generalize splitArrows other = others
  intro h
  cases h with
  | nil => exact .nil
  | cons hone hrest =>
    cases hrest with
    | nil => exact .cons hone .nil
    | cons hnext hrest =>
      exact .cons (hone.map mem_trimEnd) (trimLater_alike (.cons hnext hrest))

/-! ### Shapes -/

theorem not_isReadable_of_quote {segment : List Char} {q : Char} (h : q ∈ segment)
    (hq : isQuote q = true) : isReadable segment = false := by
  refine not_isReadable h ?_ ?_ <;> rcases isQuote_iff.1 hq with rfl | rfl <;> decide

theorem Alike.isReadable_eq {segment other : List Char} (h : Alike segment other) :
    isReadable segment = isReadable other := by
  rcases h with rfl | ⟨⟨q, hq, hquote⟩, q', hq', hquote'⟩
  · rfl
  · rw [not_isReadable_of_quote hq hquote, not_isReadable_of_quote hq' hquote']

theorem all_isReadable_dropLast {segments others : List (List Char)}
    (h : List.Forall₂ Alike segments others) :
    segments.dropLast.all isReadable = others.dropLast.all isReadable := by
  induction h with
  | nil => rfl
  | cons hone hrest ih =>
    cases hrest with
    | nil => rfl
    | cons _ _ =>
      rw [List.dropLast_cons_cons, List.dropLast_cons_cons, List.all_cons, List.all_cons, ih,
        hone.isReadable_eq]

theorem splitArrows_of_arrow {text : List Char} (h : ¬ NoArrow text) :
    ∃ piece next pieces, splitArrows text = piece :: next :: pieces := by
  rw [NoArrow, Classical.not_not] at h
  induction text with
  | nil => simp at h
  | cons c text ih =>
    by_cases hin : ['-', '>'] <+: c :: text
    · obtain ⟨rest, hrest⟩ := hin
      obtain ⟨next, pieces, hpieces⟩ := List.exists_cons_of_ne_nil (splitArrows_ne_nil rest)
      exact ⟨[], next, pieces, by rw [← hrest, ← hpieces]; exact splitArrows_arrow rest⟩
    · obtain ⟨piece, next, pieces, hpieces⟩ := ih ((List.infix_cons_iff.1 h).resolve_left hin)
      exact ⟨c :: piece, next, pieces, splitArrows_cons hin hpieces⟩

/-- A piece before the last one holds a quote that stands before an arrow. -/
theorem exists_piece_of_quote {q : Char} (hq : isQuote q = true) {text : List Char}
    (h : ¬ NoArrow text) (front : List Char) :
    ∃ piece ∈ (splitArrows (front ++ q :: text)).dropLast, q ∈ piece := by
  -- An arrow takes two characters, so the step may take two characters of the front.
  induction hlength : front.length using Nat.strong_induction_on generalizing front with
  | _ size ih =>
    subst hlength
    cases front with
    | nil =>
      have hne : ¬ ['-', '>'] <+: q :: text := fun hin =>
        ne_of_quote hq (by decide) (List.cons_prefix_cons.1 hin).1.symm
      obtain ⟨piece, next, pieces, hpieces⟩ := splitArrows_of_arrow h
      rw [List.nil_append, splitArrows_cons hne hpieces, List.dropLast_cons_cons]
      exact ⟨q :: piece, List.mem_cons_self, List.mem_cons_self⟩
    | cons c front =>
      by_cases hin : ['-', '>'] <+: c :: (front ++ q :: text)
      · obtain ⟨rfl, hafter⟩ := List.cons_prefix_cons.1 hin
        cases front with
        | nil => exact absurd (List.cons_prefix_cons.1 hafter).1.symm (ne_of_quote hq (by decide))
        | cons d front =>
          obtain ⟨rfl, -⟩ := List.cons_prefix_cons.1 hafter
          obtain ⟨piece, hpiece, hmem⟩ := ih front.length (by simp only [List.length_cons]; omega)
            front rfl
          obtain ⟨next, pieces, hpieces⟩ := List.exists_cons_of_ne_nil
            (splitArrows_ne_nil (front ++ q :: text))
          rw [List.cons_append, List.cons_append, splitArrows_arrow, hpieces,
            List.dropLast_cons_cons, ← hpieces]
          exact ⟨piece, List.mem_cons_of_mem _ hpiece, hmem⟩
      · obtain ⟨piece, hpiece, hmem⟩ := ih front.length (by simp) front rfl
        obtain ⟨first, pieces, hpieces⟩ := List.exists_cons_of_ne_nil
          (splitArrows_ne_nil (front ++ q :: text))
        rw [hpieces] at hpiece
        rw [List.cons_append, splitArrows_cons hin hpieces]
        cases pieces with
        | nil => cases hpiece
        | cons next pieces =>
          rw [List.dropLast_cons_cons] at hpiece ⊢
          rcases List.mem_cons.1 hpiece with rfl | hpiece
          · exact ⟨c :: piece, List.mem_cons_self, List.mem_cons_of_mem c hmem⟩
          · exact ⟨piece, List.mem_cons_of_mem _ hpiece, hmem⟩

theorem dropLast_sections (first : List Char) (segments : List (List Char)) (body : List Char)
    {text : List Char} (h : splitArrows text = first :: (segments ++ [body])) :
    (sections text).dropLast = trimEnd first :: segments.map trim := by
  have hcut : sections text = trimEnd first :: trimLater (segments ++ [body]) := by
    rw [sections, h]
    cases segments <;> rfl
  rw [hcut, trimLater_append, ← List.cons_append, List.dropLast_concat]

/-- The pieces lose nothing but blanks. -/
theorem exists_section_of_piece {text : List Char} {c : Char} (hc : isBlank c = false)
    (h : ∃ piece ∈ (splitArrows text).dropLast, c ∈ piece) :
    ∃ segment ∈ (sections text).dropLast, c ∈ segment := by
  obtain ⟨piece, hpiece, hmem⟩ := h
  cases hsplit : splitArrows text with
  | nil => exact absurd hsplit (splitArrows_ne_nil text)
  | cons first rest =>
    rw [hsplit] at hpiece
    rcases List.eq_nil_or_concat rest with rfl | ⟨segments, body, rfl⟩
    · cases hpiece
    · rw [List.concat_eq_append] at hsplit hpiece
      rw [dropLast_sections first segments body hsplit]
      rw [← List.cons_append, List.dropLast_concat] at hpiece
      rcases List.mem_cons.1 hpiece with rfl | hpiece
      · exact ⟨_, List.mem_cons_self, mem_trimEnd hmem hc⟩
      · exact ⟨trim piece, List.mem_cons_of_mem _ (List.mem_map_of_mem hpiece), mem_trim hmem hc⟩

theorem Scans.shape_eq_none {before : Option Char} {text : String} {spans : List Span}
    (h : Scans before text.toList spans) (harrow : ∃ content ∈ contents spans, ¬ NoArrow content)
    (operandName receiver : List Char) : shape (read operandName receiver text) = none := by
  obtain ⟨front, q, after, htext, hquote, hafter⟩ : ∃ front q after,
      text.toList = front ++ q :: after ∧ isQuote q = true ∧ ¬ NoArrow after := by
    obtain ⟨content, hcontent, hin⟩ := harrow
    obtain ⟨span, hspan, hsome⟩ := List.mem_filterMap.1 hcontent
    obtain ⟨early, late, rfl⟩ := List.append_of_mem hspan
    cases span with
    | outside c => cases hsome
    | literal marks q content' =>
      cases hsome
      refine ⟨early.flatMap Span.chars ++ marks, q, content ++ q :: late.flatMap Span.chars, ?_,
        (h.isMade _ hspan).2, fun hfree => hin fun harrow => hfree ?_⟩
      · rw [h.chars_eq, List.flatMap_append, List.flatMap_cons, Span.chars]
        simp
      · exact harrow.trans (List.prefix_append content _).isInfix
  obtain ⟨segment, hsegment, hmem⟩ := exists_section_of_piece (isBlank_of_quote hquote)
    (exists_piece_of_quote hquote hafter front)
  rw [← htext] at hsegment
  have hall : (sections text.toList).dropLast.all isReadable = false := by
    rw [List.all_eq_false]
    exact ⟨segment, hsegment, by rw [not_isReadable_of_quote hmem hquote]; exact Bool.false_ne_true⟩
  rw [shape_read]
  rcases hsections : sections text.toList with - | ⟨first, - | ⟨second, rest⟩⟩
  · simp [hsections] at hall
  · simp [hsections] at hall
  · rw [hsections] at hall
    simp only [hall, Bool.false_eq_true, if_false]

/-! ### Ends of texts -/

theorem isBlank_of_mark {c : Char} (h : isLiteralMark c = true) : isBlank c = false := by
  cases hc : isBlank c with
  | false => rfl
  | true =>
    have hword := isWordChar_of_blank hc
    rw [isWordChar_of_mark h] at hword
    exact hword

theorem map_blanked_eq {spans others : List Span}
    (h : spans.map Span.outline = others.map Span.outline) :
    spans.map Span.blanked = others.map Span.blanked := by
  have hblanked : Span.blanked = Span.blanked ∘ Span.outline := by
    funext span
    cases span <;> rfl
  rw [hblanked, ← List.map_map, h, List.map_map]

theorem forall₂_outline {spans others : List Span}
    (h : spans.map Span.outline = others.map Span.outline) :
    List.Forall₂ (fun span other => span.outline = other.outline) spans others := by
  have hmap : List.Forall₂ (· = ·) (spans.map Span.outline) (others.map Span.outline) := by
    rw [List.forall₂_eq_eq_eq]
    exact h
  rwa [List.forall₂_map_left_iff, List.forall₂_map_right_iff] at hmap

/-- The first character that is no blank is the same. -/
theorem head?_trimStart_eq {spans others : List Span}
    (h : List.Forall₂ (fun span other => span.outline = other.outline) spans others)
    (hmade : ∀ span ∈ spans, span.IsMade) :
    (trimStart (spans.flatMap Span.chars)).head? =
      (trimStart (others.flatMap Span.chars)).head? := by
  induction h with
  | nil => rfl
  | @cons span other spans others hspan _ ih =>
    rw [List.forall_mem_cons] at hmade
    have ih := ih hmade.2
    cases span with
    | outside c =>
      cases eq_outside_of_outline hspan.symm
      simp only [List.flatMap_cons, Span.chars, List.singleton_append, trimStart,
        List.dropWhile_cons]
      split
      · exact ih
      · rfl
    | literal marks q content =>
      obtain ⟨content', rfl⟩ := eq_literal_of_outline hspan.symm
      obtain ⟨hmarks, hquote⟩ := hmade.1
      cases marks with
      | nil =>
        simp [Span.chars, trimStart, isBlank_of_quote hquote]
      | cons a marks =>
        simp [Span.chars, trimStart, isBlank_of_mark (hmarks a List.mem_cons_self)]

/-- The last character that is no blank is the same. -/
theorem getLast?_trimEnd_eq {spans others : List Span}
    (h : List.Forall₂ (fun span other => span.outline = other.outline) spans others)
    (hmade : ∀ span ∈ spans, span.IsMade) :
    (trimEnd (spans.flatMap Span.chars)).getLast? =
      (trimEnd (others.flatMap Span.chars)).getLast? := by
  rw [← List.reverse_reverse spans, ← List.reverse_reverse others]
  replace h := List.forall₂_reverse_iff.2 h
  replace hmade : ∀ span ∈ spans.reverse, span.IsMade := by simpa using hmade
  generalize spans.reverse = spans at h hmade ⊢
  generalize others.reverse = others at h ⊢
  induction h with
  | nil => rfl
  | @cons span other spans others hspan _ ih =>
    rw [List.forall_mem_cons] at hmade
    have ih := ih hmade.2
    rw [List.reverse_cons, List.reverse_cons, List.flatMap_append, List.flatMap_append,
      List.flatMap_singleton, List.flatMap_singleton]
    cases span with
    | outside c =>
      cases eq_outside_of_outline hspan.symm
      rw [Span.chars]
      cases hc : isBlank c with
      | true => rw [trimEnd_concat_of_blank hc, trimEnd_concat_of_blank hc, ih]
      | false =>
        rw [trimEnd_concat_of_not hc, trimEnd_concat_of_not hc, List.getLast?_concat,
          List.getLast?_concat]
    | literal marks q content =>
      obtain ⟨content', rfl⟩ := eq_literal_of_outline hspan.symm
      have hends : ∀ front inner : List Char,
          (trimEnd (front ++ (marks ++ q :: (inner ++ [q])))).getLast? = some q := by
        intro front inner
        rw [← List.cons_append, ← List.append_assoc, ← List.append_assoc,
          trimEnd_concat_of_not (isBlank_of_quote hmade.1.2), List.getLast?_concat]
      rw [Span.chars, Span.chars, hends, hends]

/-! ### Texts with the same outline -/

theorem form_readPlain_eq {text other : String} {spans others : List Span}
    (h : Scans none text.toList spans) (h' : Scans none other.toList others)
    (hsame : spans.map Span.outline = others.map Span.outline)
    (operandName receiver : List Char) :
    (readPlain operandName receiver text).form = (readPlain operandName receiver other).form := by
  have hzip := forall₂_outline hsame
  have hunderscore : hasUnderscore text.toList = hasUnderscore other.toList := by
    rw [hasUnderscore, hasUnderscore, stripLiterals, stripLiterals, h.stripLiterals_eq,
      h'.stripLiterals_eq, map_blanked_eq hsame]
  have hfirst : lacksFirst text.toList = lacksFirst other.toList := by
    rw [lacksFirst, lacksFirst, h.chars_eq, h'.chars_eq, head?_trimStart_eq hzip h.isMade]
  have hlast : lacksLast text.toList = lacksLast other.toList := by
    rw [lacksLast, lacksLast, h.chars_eq, h'.chars_eq, getLast?_trimEnd_eq hzip h.isMade]
  simp only [readPlain, hunderscore, hfirst, hlast]
  split
  · rfl
  · split <;> rfl

/-- Without arrows in literals, texts with the same outline have the same shape. -/
theorem shape_eq_of_outline {text other : String} {spans others : List Span}
    (h : Scans none text.toList spans) (h' : Scans none other.toList others)
    (hsame : spans.map Span.outline = others.map Span.outline)
    (hfree : ∀ content ∈ contents spans, NoArrow content)
    (hfree' : ∀ content ∈ contents others, NoArrow content) (operandName receiver : List Char) :
    shape (read operandName receiver text) = shape (read operandName receiver other) := by
  have halike := splitArrows_alike hsame h.isMade h'.isMade hfree hfree'
  rw [← h.chars_eq, ← h'.chars_eq] at halike
  have hsections := sections_alike halike
  have hall := all_isReadable_dropLast hsections
  have hform := form_readPlain_eq h h' hsame operandName receiver
  rw [shape_read, shape_read]
  revert hsections hall
  generalize sections text.toList = segments
  generalize sections other.toList = segments'
  intro hsections hall
  cases hsections with
  | nil => rw [hform]
  | cons _ hrest =>
    cases hrest with
    | nil => rw [hform]
    | cons _ hrest =>
      simp only [hall, hrest.length_eq]

end LambdaText.Source
