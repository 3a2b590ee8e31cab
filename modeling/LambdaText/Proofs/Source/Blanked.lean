import LambdaText.Proofs.Source.Excluded

/-!
# Texts without some of their literals

If literals of a text are replaced by blanks, the scanner takes what remains apart as before, with a
blank outside where a literal was. A quote that nothing closes stays so: the scan from there reaches
the end of every literal with the same escapes open, and passes the blank as it passed the literal.
-/

namespace LambdaText.Source

open LambdaText.Text

/-- A span, or a blank in the place of a literal. -/
inductive Span.Blanks : Span → Span → Prop
  | same (span : Span) : Span.Blanks span span
  | blank (marks content : List Char) (q : Char) :
      Span.Blanks (.literal marks q content) (.outside ' ')

theorem Span.blanks_blanked (span : Span) : span.Blanks (.outside span.blanked) := by
  cases span with
  | outside c => exact .same _
  | literal marks q content => exact .blank marks content q

/-! ### Where the scan for a closing quote goes on -/

variable {q quote : Char} {part text : List Char}

theorem closing?_escape (q : Char) {c : Char} (hc : c ≠ '\n') (text : List Char) :
    closing? q ('\\' :: c :: text) = (closing? q text).map (· + 2) := by
  rw [closing?, if_neg hc]

theorem closing?_cons (q : Char) {c : Char} (hc : c ≠ '\\') (text : List Char) :
    closing? q (c :: text) =
      if c = q then some 1
      else if c = '\n' then none
      else (closing? q text).map (· + 1) := by
  rw [closing?]
  · rintro rfl
    exact absurd rfl hc
  · rintro d rest rfl
    exact absurd rfl hc

/-- A part of a text in which the scan for a closing quote ends, or behind which it starts again. -/
def Settles (q : Char) (part : List Char) : Prop :=
  (∃ n, ∀ text, closing? q (part ++ text) = some n) ∨
    ∀ text, closing? q (part ++ text) = (closing? q text).map (· + part.length)

theorem settles_nil (q : Char) : Settles q [] := .inr fun text => by simp

theorem Settles.cons {c : Char} (hslash : c ≠ '\\') (hline : c ≠ '\n') (h : Settles q part) :
    Settles q (c :: part) := by
  by_cases hc : c = q
  · exact .inl ⟨1, fun text => by rw [List.cons_append, closing?_cons q hslash, if_pos hc]⟩
  have step (text : List Char) :
      closing? q (c :: part ++ text) = (closing? q (part ++ text)).map (· + 1) := by
    rw [List.cons_append, closing?_cons q hslash, if_neg hc, if_neg hline]
  rcases h with ⟨n, h⟩ | h
  · exact .inl ⟨n + 1, fun text => by rw [step, h, Option.map_some]⟩
  · refine .inr fun text => ?_
    rw [step, h, Option.map_map]
    rfl

theorem Settles.escape {c : Char} (hline : c ≠ '\n') (h : Settles q part) :
    Settles q ('\\' :: c :: part) := by
  have step (text : List Char) :
      closing? q ('\\' :: c :: part ++ text) = (closing? q (part ++ text)).map (· + 2) :=
    closing?_escape q hline _
  rcases h with ⟨n, h⟩ | h
  · exact .inl ⟨n + 2, fun text => by rw [step, h, Option.map_some]⟩
  · refine .inr fun text => ?_
    rw [step, h, Option.map_map]
    rfl

/-- If nothing closes a quote, nothing does behind a part that settles the scan, nor if other text
in which nothing does comes behind it. -/
theorem Settles.of_none (h : Settles q part) (hnone : closing? q (part ++ text) = none) :
    closing? q text = none ∧
      ∀ other, closing? q other = none → closing? q (part ++ other) = none := by
  rcases h with ⟨n, h⟩ | h
  · rw [h] at hnone
    cases hnone
  · rw [h, Option.map_eq_none_iff] at hnone
    exact ⟨hnone, fun other hother => by rw [h, hother, Option.map_none]⟩

/-- What stands between the quotes of a literal. -/
inductive Content (quote : Char) : List Char → Prop
  | nil : Content quote []
  | char {c : Char} {content : List Char} (hquote : c ≠ quote) (hslash : c ≠ '\\')
      (hline : c ≠ '\n') (h : Content quote content) : Content quote (c :: content)
  | escape {c : Char} {content : List Char} (hline : c ≠ '\n') (h : Content quote content) :
      Content quote ('\\' :: c :: content)

theorem exists_content {n : Nat} (h : closing? quote text = some n) :
    ∃ content rest, text = content ++ quote :: rest ∧ n = content.length + 1 ∧
      Content quote content := by
  fun_induction closing? quote text generalizing n with
  | case1 => cases h
  | case2 => cases h
  | case3 => cases h
  | case4 c rest hline ih =>
    obtain ⟨k, hk, rfl⟩ := Option.map_eq_some_iff.1 h
    obtain ⟨content, after, rfl, rfl, hcontent⟩ := ih hk
    exact ⟨'\\' :: c :: content, after, rfl, rfl, .escape hline hcontent⟩
  | case5 rest =>
    cases h
    exact ⟨[], rest, rfl, rfl, .nil⟩
  | case6 => cases h
  | case7 c rest hlast hescape hclose hline ih =>
    obtain ⟨k, hk, rfl⟩ := Option.map_eq_some_iff.1 h
    obtain ⟨content, after, rfl, rfl, hcontent⟩ := ih hk
    refine ⟨c :: content, after, rfl, rfl, .char hclose ?_ hline hcontent⟩
    rintro rfl
    cases content with
    | nil => exact hescape _ _ rfl rfl
    | cons d content => exact hescape _ _ rfl rfl

theorem isQuote_ne (h : isQuote q = true) : q ≠ '\\' ∧ q ≠ '\n' := by
  rcases isQuote_iff.1 h with rfl | rfl <;> decide

theorem isLiteralMark_ne {c : Char} (h : isLiteralMark c = true) : c ≠ '\\' ∧ c ≠ '\n' :=
  ⟨fun hc => by subst hc; exact absurd h (by decide),
    fun hc => by subst hc; exact absurd h (by decide)⟩

/-- The scan for any quote is settled by the inside of a literal and its closing quote. -/
theorem Content.settles {content : List Char} (h : Content quote content)
    (hquote : isQuote quote = true) (q : Char) : Settles q (content ++ [quote]) := by
  induction h with
  | nil => exact (settles_nil q).cons (isQuote_ne hquote).1 (isQuote_ne hquote).2
  | char _ hslash hline _ ih => exact ih.cons hslash hline
  | escape hline _ ih => exact ih.escape hline

/-- The inside of a literal is closed by the next quote of its kind. -/
theorem Content.closing?_eq {content : List Char} (h : Content quote content)
    (hquote : isQuote quote = true) (text : List Char) :
    closing? quote (content ++ quote :: text) = some (content.length + 1) := by
  induction h with
  | nil => rw [List.nil_append, closing?_cons _ (isQuote_ne hquote).1, if_pos rfl]; rfl
  | char hclose hslash hline _ ih =>
    rw [List.cons_append, closing?_cons _ hslash, if_neg hclose, if_neg hline, ih]
    rfl
  | escape hline _ ih =>
    rw [List.cons_append, List.cons_append, closing?_escape _ hline, ih]
    rfl

theorem Settles.marks {marks : List Char} (h : Settles q part)
    (hmarks : ∀ c ∈ marks, isLiteralMark c = true) : Settles q (marks ++ part) := by
  induction marks with
  | nil => exact h
  | cons c marks ih =>
    rw [List.forall_mem_cons] at hmarks
    obtain ⟨hslash, hline⟩ := isLiteralMark_ne hmarks.1
    exact (ih hmarks.2).cons hslash hline

section

variable {marks content : List Char} (hmarks : ∀ c ∈ marks, isLiteralMark c = true)
  (hquote : isQuote quote = true) (hcontent : Content quote content)

include hmarks hquote hcontent

theorem settles_literal (q : Char) : Settles q (marks ++ quote :: (content ++ [quote])) :=
  ((hcontent.settles hquote q).cons (isQuote_ne hquote).1 (isQuote_ne hquote).2).marks hmarks

/-- A backslash in front of a literal takes its first character. -/
theorem settles_escaped_literal (q : Char) :
    Settles q ('\\' :: (marks ++ quote :: (content ++ [quote]))) := by
  cases marks with
  | nil => exact (hcontent.settles hquote q).escape (isQuote_ne hquote).2
  | cons c marks =>
    rw [List.forall_mem_cons] at hmarks
    exact (settles_literal hmarks.2 hquote hcontent q).escape (isLiteralMark_ne hmarks.1).2

end

theorem bareLiteral?_of_quote (hquote : isQuote quote = true) (text : List Char) :
    bareLiteral? (quote :: text) = (closing? quote text).map (· + 1) := by
  rw [bareLiteral?, if_pos (isQuote_iff.1 hquote)]

theorem content_of_literal? {before : Option Char} {marks content text : List Char}
    (hmarks : ∀ c ∈ marks, isLiteralMark c = true) (hquote : isQuote quote = true)
    (h : literal? before (marks ++ quote :: (content ++ quote :: text)) =
      some (marks.length + content.length + 2)) : Content quote content := by
  rw [Nat.add_assoc] at h
  have hbare := bareLiteral?_of_literal? hmarks hquote h
  rw [bareLiteral?_of_quote hquote] at hbare
  obtain ⟨n, hn, hlength⟩ := Option.map_eq_some_iff.1 hbare
  obtain ⟨inside, rest, htext, rfl, hinside⟩ := exists_content hn
  have hsame := List.append_inj_left htext (by omega)
  exact hsame ▸ hinside

/-! ### Quotes that nothing closes -/

/-- If nothing closes a quote, nothing does when literals behind it are blanked, be there a
backslash in front of them or not. -/
theorem Scans.closing?_blanks {before : Option Char} {text : List Char} {spans others : List Span}
    (h : Scans before text spans) (hblanks : List.Forall₂ Span.Blanks spans others)
    (hq : isQuote q = true) :
    (closing? q text = none → closing? q (others.flatMap Span.chars) = none) ∧
    (closing? q ('\\' :: text) = none →
      closing? q ('\\' :: others.flatMap Span.chars) = none) := by
  have onward {part text rest : List Char} (hpart : Settles q part)
      (hrest : closing? q text = none → closing? q rest = none)
      (hnone : closing? q (part ++ text) = none) : closing? q (part ++ rest) = none :=
    (hpart.of_none hnone).2 _ (hrest (hpart.of_none hnone).1)
  induction h generalizing others with
  | done => cases hblanks; exact ⟨id, id⟩
  | @outside before c text spans _ _ ih =>
    obtain ⟨other, others, hspan, hothers, rfl⟩ := List.forall₂_cons_left_iff.1 hblanks
    cases hspan
    obtain ⟨hplain, hescaped⟩ := ih hothers
    rw [List.flatMap_cons, Span.chars]
    by_cases hslash : c = '\\'
    · subst hslash
      exact ⟨hescaped, onward ((settles_nil q).escape (by decide)) hplain⟩
    · by_cases hline : c = '\n'
      · have hne := (isQuote_ne hq).2.symm
        subst hline
        refine ⟨fun _ => ?_, fun _ => by rw [List.singleton_append, closing?, if_pos rfl]⟩
        rw [List.singleton_append, closing?_cons q hslash, if_neg hne, if_pos rfl]
      · exact ⟨onward ((settles_nil q).cons hslash hline) hplain,
          onward ((settles_nil q).escape hline) hplain⟩
  | @literal before marks content text quote spans hmarks hquote hliteral _ ih =>
    obtain ⟨other, others, hspan, hothers, rfl⟩ := List.forall₂_cons_left_iff.1 hblanks
    have hplain := (ih hothers).1
    have hcontent := content_of_literal? hmarks hquote hliteral
    have hpart := settles_literal hmarks hquote hcontent q
    have hescaped := settles_escaped_literal hmarks hquote hcontent q
    rw [List.flatMap_cons, literal_append]
    cases hspan with
    | same => exact ⟨onward hpart hplain, onward hescaped hplain⟩
    | blank =>
      have hne : ' ' ≠ q := by
        rintro rfl
        exact absurd hq (by decide)
      refine ⟨fun hnone => ?_, fun hnone => ?_⟩
      · have hrest := hplain (hpart.of_none hnone).1
        rw [Span.chars, List.singleton_append, closing?_cons q (by decide), if_neg hne,
          if_neg (by decide), hrest]
        rfl
      · have hrest := hplain (hescaped.of_none hnone).1
        rw [Span.chars, List.singleton_append, closing?_escape q (by decide), hrest]
        rfl

theorem Scans.bareLiteral?_blanks {before : Option Char} {text : List Char}
    {spans others : List Span} (h : Scans before text spans)
    (hblanks : List.Forall₂ Span.Blanks spans others) (hnone : bareLiteral? text = none) :
    bareLiteral? (others.flatMap Span.chars) = none := by
  cases h with
  | done => cases hblanks; rfl
  | @outside _ c text spans _ h =>
    obtain ⟨other, others, hspan, hothers, rfl⟩ := List.forall₂_cons_left_iff.1 hblanks
    cases hspan
    rw [List.flatMap_cons, Span.chars, List.singleton_append]
    cases hc : isQuote c with
    | false => exact bareLiteral?_of_not_quote hc _
    | true =>
      rw [bareLiteral?_of_quote hc, Option.map_eq_none_iff] at hnone ⊢
      exact (h.closing?_blanks hothers hc).1 hnone
  | @literal _ marks content text quote spans hmarks hquote hliteral h =>
    obtain ⟨other, others, hspan, hothers, rfl⟩ := List.forall₂_cons_left_iff.1 hblanks
    rw [List.flatMap_cons]
    cases hspan with
    | blank => exact bareLiteral?_of_not_quote (by decide) _
    | same =>
      cases marks with
      | nil =>
        rw [List.nil_append, literal?_of_quote hquote, ← List.nil_append (quote :: _), hnone]
          at hliteral
        cases hliteral
      | cons c marks =>
        exact bareLiteral?_of_not_quote (isQuote_of_mark (hmarks c List.mem_cons_self)) _

theorem isBoundary_congr {before other : Option Char}
    (h : before.any isWordChar = other.any isWordChar) (after : Option Char) :
    isBoundary before after = isBoundary other after := by
  rw [isBoundary, isBoundary, h]

theorem literal?_of_mark {before : Option Char} {c : Char}
    (h : (isLiteralMark c && isBoundary before (some c)) = true) (d : Char) (text : List Char) :
    literal? before (c :: d :: text) =
      if isLiteralMark d then (bareLiteral? text).map (· + 2)
      else (bareLiteral? (d :: text)).map (· + 1) := by
  rw [literal?, if_pos h]

theorem literal?_of_not_mark {before : Option Char} {c : Char}
    (h : (isLiteralMark c && isBoundary before (some c)) = false) (text : List Char) :
    literal? before (c :: text) = bareLiteral? (c :: text) := by
  cases text with
  | nil => rfl
  | cons d text => rw [literal?, if_neg (by rw [h]; exact Bool.false_ne_true)]

theorem Scans.literal?_blanks {before before' : Option Char} {c : Char} {text : List Char}
    {spans others : List Span} (h : Scans (some c) text spans)
    (hbefore : before.any isWordChar = before'.any isWordChar)
    (hblanks : List.Forall₂ Span.Blanks spans others)
    (hnone : literal? before (c :: text) = none) :
    literal? before' (c :: others.flatMap Span.chars) = none := by
  cases hmark : isLiteralMark c && isBoundary before (some c) with
  | false =>
    have hmark' := (isBoundary_congr hbefore (some c)) ▸ hmark
    rw [literal?_of_not_mark hmark] at hnone
    rw [literal?_of_not_mark hmark']
    cases hc : isQuote c with
    | false => exact bareLiteral?_of_not_quote hc _
    | true =>
      rw [bareLiteral?_of_quote hc, Option.map_eq_none_iff] at hnone ⊢
      exact (h.closing?_blanks hblanks hc).1 hnone
  | true =>
    have hmark' := (isBoundary_congr hbefore (some c)) ▸ hmark
    have hc := (Bool.and_eq_true_iff.1 hmark).1
    cases h with
    | done =>
      cases hblanks
      exact bareLiteral?_of_not_quote (isQuote_of_mark hc) _
    | @outside _ d text spans hd h =>
      have hrest := Scans.outside hd h
      obtain ⟨other, others, hspan, hothers, rfl⟩ := List.forall₂_cons_left_iff.1 hblanks
      cases hspan
      rw [literal?_of_mark hmark] at hnone
      rw [List.flatMap_cons, Span.chars, List.singleton_append, literal?_of_mark hmark']
      split at hnone
      · next hletter =>
        rw [if_pos hletter, h.bareLiteral?_blanks hothers (Option.map_eq_none_iff.1 hnone)]
        rfl
      · next hletter =>
        have hbare := hrest.bareLiteral?_blanks hblanks (Option.map_eq_none_iff.1 hnone)
        rw [List.flatMap_cons, Span.chars, List.singleton_append] at hbare
        rw [if_neg hletter, hbare]
        rfl
    | @literal _ marks content text quote spans hmarks hquote hliteral h =>
      -- a mark in front of a literal would belong to it, or stand within a word
      cases marks with
      | nil =>
        have hletter := isLiteralMark_of_quote hquote
        rw [List.nil_append, literal?_of_quote hquote] at hliteral
        rw [List.nil_append, literal?_of_mark hmark, hletter, if_neg Bool.false_ne_true, hliteral]
          at hnone
        cases hnone
      | cons d marks =>
        have hword := not_word_before_marks (hmarks d List.mem_cons_self) hliteral
        rw [Option.any_some, isWordChar_of_mark hc] at hword
        cases hword

/-- What is behind a literal does not matter for it, nor does what stands before it but for whether
that belongs to a word. -/
theorem literal?_congr {before before' : Option Char} {marks text text' : List Char}
    (hmarks : ∀ c ∈ marks, isLiteralMark c = true) (hquote : isQuote quote = true)
    (hbefore : before.any isWordChar = before'.any isWordChar)
    (h : bareLiteral? (quote :: text) = bareLiteral? (quote :: text')) :
    literal? before (marks ++ quote :: text) = literal? before' (marks ++ quote :: text') := by
  have hnone : ∀ c ∈ marks, ∀ rest, bareLiteral? (c :: rest) = none := fun c hc rest =>
    bareLiteral?_of_not_quote (isQuote_of_mark (hmarks c hc)) rest
  match marks with
  | [] => rw [List.nil_append, List.nil_append, literal?_of_quote hquote,
      literal?_of_quote hquote, h]
  | [a] =>
    have hletter := isLiteralMark_of_quote hquote
    simp [literal?, isBoundary_congr hbefore, hletter, hnone, h]
  | [a, b] => simp [literal?, isBoundary_congr hbefore, hmarks b, hnone, h]
  | a :: b :: c :: marks =>
    simp [literal?, isBoundary_congr hbefore, hmarks b, hnone]

/-- If literals of a text are blanked, it is taken apart as before, with blanks outside. -/
theorem Scans.blanks {before before' : Option Char} {text : List Char} {spans others : List Span}
    (h : Scans before text spans) (hbefore : before.any isWordChar = before'.any isWordChar)
    (hblanks : List.Forall₂ Span.Blanks spans others) :
    Scans before' (others.flatMap Span.chars) others := by
  induction h generalizing before' others with
  | done => cases hblanks; exact .done _
  | @outside before c text spans hnone h ih =>
    obtain ⟨other, others, hspan, hothers, rfl⟩ := List.forall₂_cons_left_iff.1 hblanks
    cases hspan
    exact .outside (h.literal?_blanks hbefore hothers hnone) (ih rfl hothers)
  | @literal before marks content text quote spans hmarks hquote hliteral h ih =>
    obtain ⟨other, others, hspan, hothers, rfl⟩ := List.forall₂_cons_left_iff.1 hblanks
    rw [List.flatMap_cons]
    cases hspan with
    | blank =>
      refine .outside ?_ (ih ?_ hothers)
      · rw [literal?_of_not_mark rfl]
        exact bareLiteral?_of_not_quote (by decide) _
      · rw [Option.any_some, Option.any_some, isWordChar_of_quote hquote]
        decide
    | same =>
      have hcontent := content_of_literal? hmarks hquote hliteral
      rw [Span.chars, ← literal_append]
      refine .literal hmarks hquote ?_ (ih rfl hothers)
      rw [← hliteral]
      refine literal?_congr hmarks hquote hbefore.symm ?_
      rw [bareLiteral?_of_quote hquote, bareLiteral?_of_quote hquote, hcontent.closing?_eq hquote,
        hcontent.closing?_eq hquote]

/-! ### Only one way to take a text apart -/

theorem marks_eq {marks marks' rest rest' : List Char} {q q' : Char}
    (hmarks : ∀ c ∈ marks, isLiteralMark c = true) (hmarks' : ∀ c ∈ marks', isLiteralMark c = true)
    (hquote : isQuote q = true) (hquote' : isQuote q' = true)
    (h : marks ++ q :: rest = marks' ++ q' :: rest') :
    marks = marks' ∧ q = q' ∧ rest = rest' := by
  induction marks generalizing marks' with
  | nil =>
    cases marks' with
    | nil => simpa using h
    | cons c marks' =>
      obtain ⟨rfl, -⟩ := List.cons.inj h
      rw [isQuote_of_mark (hmarks' q List.mem_cons_self)] at hquote
      cases hquote
  | cons c marks ih =>
    rw [List.forall_mem_cons] at hmarks
    cases marks' with
    | nil =>
      obtain ⟨rfl, -⟩ := List.cons.inj h
      rw [isQuote_of_mark hmarks.1] at hquote'
      cases hquote'
    | cons d marks' =>
      obtain ⟨rfl, htail⟩ := List.cons.inj h
      obtain ⟨rfl, hrest⟩ := ih hmarks.2 (fun c hc => hmarks' c (List.mem_cons_of_mem _ hc)) htail
      exact ⟨rfl, hrest⟩

theorem Scans.eq_nil {before : Option Char} {spans : List Span} (h : Scans before [] spans) :
    spans = [] := by
  generalize hwhole : ([] : List Char) = whole at h
  cases h with
  | done => rfl
  | outside => cases hwhole
  | literal => simp at hwhole

/-- A text is taken apart in one way. -/
theorem Scans.unique {before : Option Char} {text : List Char} {spans others : List Span}
    (h : Scans before text spans) (h' : Scans before text others) : others = spans := by
  induction h generalizing others with
  | done => exact h'.eq_nil
  | @outside before c text spans hnone _ ih =>
    generalize hwhole : c :: text = whole at h' hnone
    cases h' with
    | done => cases hwhole
    | outside _ h' =>
      cases hwhole
      rw [ih h']
    | literal _ _ hliteral =>
      rw [hliteral] at hnone
      cases hnone
  | @literal before marks content text quote spans hmarks hquote hliteral _ ih =>
    generalize hwhole : marks ++ quote :: (content ++ quote :: text) = whole at h' hliteral
    cases h' with
    | done => simp at hwhole
    | outside hnone =>
      rw [hnone] at hliteral
      cases hliteral
    | @literal _ marks' content' text' quote' others hmarks' hquote' hliteral' h' =>
      obtain ⟨rfl, rfl, hrest⟩ := marks_eq hmarks hmarks' hquote hquote' hwhole
      have hlength : content.length = content'.length := by
        rw [hliteral] at hliteral'
        have := Option.some.inj hliteral'
        omega
      obtain ⟨rfl, htail⟩ := List.append_inj hrest hlength
      obtain ⟨-, rfl⟩ := List.cons.inj htail
      rw [ih h']

/-! ### Without literals -/

theorem forall₂_blanked (spans : List Span) :
    List.Forall₂ Span.Blanks spans (spans.map fun span => .outside span.blanked) :=
  List.forall₂_map_right_iff.2 (List.forall₂_same.2 fun span _ => span.blanks_blanked)

theorem flatMap_blanked (spans : List Span) :
    (spans.map fun span => Span.outside span.blanked).flatMap Span.chars =
      spans.map Span.blanked := by
  induction spans with
  | nil => rfl
  | cons span spans ih =>
    rw [List.map_cons, List.flatMap_cons, ih]
    rfl

/-- Without its literals a text is taken apart into the characters that are left. -/
theorem Scans.blanked {before : Option Char} {text : List Char} {spans : List Span}
    (h : Scans before text spans) :
    Scans before (spans.map Span.blanked) (spans.map fun span => .outside span.blanked) := by
  rw [← flatMap_blanked]
  exact h.blanks rfl (forall₂_blanked spans)

/-- In a text that is outside of literals as a whole, nothing opens a literal. -/
theorem Scans.bareLiteral?_of_outside {before : Option Char} {front rest : List Char}
    {spans : List Span} (h : Scans before (front ++ rest) spans)
    (hall : ∀ span ∈ spans, ∃ c, span = .outside c) : bareLiteral? rest = none := by
  induction front generalizing before spans with
  | nil =>
    rw [List.nil_append] at h
    cases h with
    | done => rfl
    | @outside _ c text spans hnone _ =>
      cases hc : isQuote c with
      | false => exact bareLiteral?_of_not_quote hc _
      | true => rwa [literal?_of_quote hc] at hnone
    | literal =>
      obtain ⟨c, hspan⟩ := hall _ List.mem_cons_self
      cases hspan
  | cons c front ih =>
    generalize hwhole : c :: front ++ rest = whole at h
    cases h with
    | done => cases hwhole
    | outside _ h =>
      cases hwhole
      exact ih h fun span hspan => hall span (List.mem_cons_of_mem _ hspan)
    | literal =>
      obtain ⟨c, hspan⟩ := hall _ List.mem_cons_self
      cases hspan

theorem literal?_eq_none {text : List Char} (h : ∀ rest, rest <:+ text → bareLiteral? rest = none)
    (before : Option Char) : literal? before text = none := by
  unfold literal?
  split
  · next a b rest =>
    rw [h _ (List.suffix_refl _), h _ (List.suffix_cons a _),
      h rest ((List.suffix_cons b rest).trans (List.suffix_cons a _))]
    simp
  · exact h _ (List.suffix_refl _)

/-- Nowhere in what is left of a text without its literals does a literal start. -/
theorem Scans.literal?_blanked {before : Option Char} {text rest : List Char} {spans : List Span}
    (h : Scans before text spans) (hrest : rest <:+ spans.map Span.blanked)
    (before' : Option Char) : literal? before' rest = none := by
  refine literal?_eq_none (fun last hlast => ?_) before'
  obtain ⟨front, hfront⟩ := hlast.trans hrest
  have hblanked := h.blanked
  rw [← hfront] at hblanked
  refine hblanked.bareLiteral?_of_outside fun span hspan => ?_
  obtain ⟨first, -, rfl⟩ := List.mem_map.1 hspan
  exact ⟨_, rfl⟩

/-- A text has its literals in one way. Without them it is what stands outside, with a blank for
each of them; nowhere in that does a literal start, so nothing is left to be taken out. Nor does
blanking some of the literals make a literal of a quote that stood outside. -/
theorem stripLiterals_complete (text : List Char) :
    ∃ spans, Scans none text spans ∧ (∀ others, Scans none text others → others = spans) ∧
      text = spans.flatMap Span.chars ∧ stripLiterals text = spans.map Span.blanked ∧
      (∀ rest, rest <:+ stripLiterals text → ∀ before, literal? before rest = none) ∧
      stripLiterals (stripLiterals text) = stripLiterals text ∧
      ∀ others, List.Forall₂ Span.Blanks spans others →
        Scans none (others.flatMap Span.chars) others := by
  obtain ⟨spans, hscans⟩ := exists_scans none text
  have hstripped : stripLiterals text = spans.map Span.blanked := hscans.stripLiterals_eq
  refine ⟨spans, hscans, fun _ => hscans.unique, hscans.chars_eq, hstripped, ?_, ?_,
    fun _ => hscans.blanks rfl⟩
  · exact fun rest hrest => hscans.literal?_blanked (hstripped ▸ hrest)
  · have htwice := hscans.blanked.stripLiterals_eq
    rw [List.map_map] at htwice
    rw [hstripped]
    exact htwice

/-- The backslash behind the open quote takes the blank, as it took the quote. -/
example : stripLiterals ['\'', 'a', '\\', '"', 'b', '"', 'c'] = ['\'', 'a', '\\', ' ', 'c'] := by
  decide

end LambdaText.Source
