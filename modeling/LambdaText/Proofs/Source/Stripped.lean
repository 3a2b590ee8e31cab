import LambdaText.Proofs.Source.Blanked
import LambdaText.Proofs.Source.FreeNames
import LambdaText.Proofs.Source.Literals

/-!
# Free names without literals

The scan for free names may pass over the marks of a literal before it comes to its quotes: behind a
point they look like an attribute, and a receiver may end with them. A point alone holds no name, so
a text has the same free names with its literals and without them, unless a receiver runs into
marks.
-/

namespace LambdaText.Source

open LambdaText.Text

variable {receiver front marks : List Char} {spans : List Span}

/-- A receiver runs into marks if it stands right in front of the marks of a literal, or starts in
front of them and ends with them. -/
def RunsIntoMarks (receiver : List Char) (spans : List Span) : Prop :=
  ∃ front marks q content later start,
    spans = front ++ .literal marks q content :: later ∧ marks ≠ [] ∧ start ≠ [] ∧
      start <:+ front.flatMap Span.chars ∧ (receiver = start ∨ receiver = start ++ marks)

theorem RunsIntoMarks.append (h : RunsIntoMarks receiver spans) (front : List Span) :
    RunsIntoMarks receiver (front ++ spans) := by
  obtain ⟨between, marks, q, content, later, start, rfl, hmarks, hstart, hsuffix, hreceiver⟩ := h
  refine ⟨front ++ between, marks, q, content, later, start, (List.append_assoc ..).symm, hmarks,
    hstart, ?_, hreceiver⟩
  rw [List.flatMap_append]
  exact hsuffix.trans (List.suffix_append _ _)

theorem Scans.of_append {before : Option Char} {text : List Char} {front later : List Span}
    (h : Scans before text (front ++ later)) :
    ∃ rest, Scans ((front.flatMap Span.chars).getLast?.or before) rest later := by
  induction front generalizing before text with
  | nil => exact ⟨text, h⟩
  | cons span front ih =>
    rw [List.flatMap_cons, List.getLast?_append, Option.or_assoc]
    rw [List.cons_append] at h
    cases h with
    | outside _ h => exact ih h
    | @literal _ marks content _ q _ _ _ _ h =>
      have hlast : (Span.literal marks q content).chars.getLast? = some q := by
        rw [Span.chars, ← List.cons_append, ← List.append_assoc, List.getLast?_concat]
      rw [hlast]
      exact ih h

/-- A receiver that is one word does not run into marks: these stand at the start of a word. -/
theorem Scans.not_runsIntoMarks {before : Option Char} {text : List Char}
    (h : Scans before text spans) (hword : ∀ c ∈ receiver, isWordChar c = true) :
    ¬ RunsIntoMarks receiver spans := by
  rintro ⟨front, marks, q, content, later, start, rfl, hmarks, hstart, ⟨ahead, hfront⟩, hreceiver⟩
  obtain ⟨rest, hrest⟩ := h.of_append
  have hlast : start.getLast?.any isWordChar = true :=
    getLast?_run (fun c hc => hword c (by rcases hreceiver with rfl | rfl <;> simp [hc])) hstart
  rw [← hfront, List.getLast?_append_of_ne_nil ahead hstart,
    List.getLast?_eq_some_getLast hstart, Option.some_or] at hrest
  rw [List.getLast?_eq_some_getLast hstart] at hlast
  obtain ⟨mark, marks, rfl⟩ := List.exists_cons_of_ne_nil hmarks
  cases hrest with
  | literal hall _ hliteral =>
    rw [not_word_before_marks (hall mark List.mem_cons_self) hliteral] at hlast
    cases hlast

/-! ### Spans in front of marks -/

theorem label?_edge {c : Char} (hword : isWordChar c = false) (before : Option Char)
    (front text : List Char) :
    label? before (front ++ c :: text) = label? before (front ++ [c]) := by
  cases front with
  | nil => simp [label?, isAsciiNameStart_of_not_word hword]
  | cons d front =>
    simp only [List.cons_append, label?]
    rw [dropWhile_word_append hword, takeWhile_word_append hword, dropWhile_word_append hword,
      takeWhile_word_append hword]
    cases front.dropWhile isWordChar with
    | nil => by_cases hc : c = ':' <;> simp [hc]
    | cons e rest => by_cases he : e = ':' <;> simp [he]

/-- A receiver that does not run into the marks behind a part is found with them as without. -/
theorem receiver?_marks (hmarks : ∀ c ∈ marks, isWordChar c = true)
    (hfront : receiver ≠ front) (hwhole : receiver ≠ front ++ marks) (before : Option Char)
    (hne : front ≠ []) :
    receiver? receiver before (front ++ marks) = receiver? receiver before front := by
  by_cases hin : receiver <+: front
  · obtain ⟨rest, rfl⟩ := hin
    have hrest : rest ≠ [] := by
      rintro rfl
      exact hfront (List.append_nil _).symm
    rw [receiver?, receiver?, List.append_assoc, List.drop_left, List.drop_left,
      ← List.append_assoc, List.head?_append_of_ne_nil _ hne, List.head?_append_of_ne_nil _ hrest]
    simp
  · have hnone : receiver? receiver before front = none := by
      rw [receiver?, if_neg]
      simp [hin]
    rw [hnone, receiver?, if_neg]
    simp only [Bool.and_eq_true, not_and, and_imp, List.isPrefixOf_iff_prefix]
    rintro - hprefix -
    -- it would end within the marks, which is no edge of a word
    obtain ⟨rest, hrest⟩ := hprefix
    rcases List.append_eq_append_iff.1 hrest with ⟨taken, hfront, -⟩ | ⟨taken, rfl, rfl⟩
    · exact absurd ⟨taken, hfront.symm⟩ hin
    · rw [List.forall_mem_append] at hmarks
      have htaken : taken ≠ [] := by
        rintro rfl
        exact hfront (List.append_nil _)
      have hafter : rest ≠ [] := by
        rintro rfl
        exact hwhole (by rw [List.append_nil])
      obtain ⟨c, rest, rfl⟩ := List.exists_cons_of_ne_nil hafter
      have hc := hmarks.2 c List.mem_cons_self
      have hlast := getLast?_run hmarks.1 htaken
      rw [← List.append_assoc, List.drop_left, List.getLast?_append_of_ne_nil _ htaken, isBoundary,
        hlast]
      simp [hc]

/-- Behind the end of a word, marks change no match, but for an attribute that they look like. -/
theorem plainSpan?_marks (hmarks : ∀ c ∈ marks, isWordChar c = true)
    (hedge : marks ≠ [] → front.getLast?.any isWordChar = false) (hne : front ≠ [])
    (hpoint : marks ≠ [] → front ≠ ['.'])
    (hreceiver : marks ≠ [] → receiver ≠ front ∧ receiver ≠ front ++ marks)
    (before : Option Char) :
    plainSpan? receiver before (front ++ marks) = plainSpan? receiver before front := by
  by_cases hnil : marks = []
  · rw [hnil, List.append_nil]
  obtain ⟨hshort, hlong⟩ := hreceiver hnil
  have hreceiver := receiver?_marks hmarks hshort hlong before hne
  induction front using List.reverseRec with
  | nil => exact absurd rfl hne
  | append_singleton front c _ =>
    have hc : isWordChar c = false := by simpa using hedge hnil
    have hpoint : front = [] → c ≠ '.' := by
      rintro rfl rfl
      exact hpoint hnil rfl
    rw [plainSpan?, plainSpan?, hreceiver]
    rw [List.append_assoc, List.singleton_append, capitalOrAttribute?_append hc hpoint,
      capitalOrAttribute?_append hc hpoint, label?_edge hc]

/-! ### Both scans -/

theorem excluded?_congr {before before' : Option Char}
    (h : before.any isWordChar = before'.any isWordChar) (text : List Char) :
    excluded? receiver before text = excluded? receiver before' text := by
  have hedge := isBoundary_congr h
  cases text with
  | nil => simp [excluded?, literal?, capitalOrAttribute?, label?, receiver?, hedge]
  | cons c text =>
    cases text <;> simp [excluded?, literal?, capitalOrAttribute?, label?, receiver?, hedge]

theorem blankMatches_congr {before before' : Option Char}
    (h : before.any isWordChar = before'.any isWordChar) (text : List Char) :
    blankMatches (excluded? receiver) 0 before text =
      blankMatches (excluded? receiver) 0 before' text := by
  cases text with
  | nil => rfl
  | cons c text => rw [blankMatches, blankMatches, excluded?_congr h]

theorem exists_first (spans : List Span) :
    (∃ text : List Char, spans = text.map .outside) ∨
      ∃ (front marks : List Char) (q : Char) (content : List Char) (later : List Span),
        spans = front.map .outside ++ .literal marks q content :: later := by
  induction spans with
  | nil => exact .inl ⟨[], rfl⟩
  | cons span spans ih =>
    cases span with
    | literal marks q content => exact .inr ⟨[], marks, q, content, spans, rfl⟩
    | outside c =>
      rcases ih with ⟨text, rfl⟩ | ⟨front, marks, q, content, later, rfl⟩
      · exact .inl ⟨c :: text, rfl⟩
      · exact .inr ⟨c :: front, marks, q, content, later, rfl⟩

theorem front?_outside_append (front marks content : List Char) (q : Char) (later : List Span) :
    front? (front.map .outside ++ .literal marks q content :: later) = some (front ++ marks) := by
  induction front with
  | nil => rfl
  | cons c front ih =>
    rw [List.map_cons, List.cons_append, front?, ih]
    rfl

theorem dropChars_outside_append {front : List Char} {n : Nat} (hle : n ≤ front.length)
    (spans : List Span) :
    dropChars n (front.map .outside ++ spans) = (front.drop n).map .outside ++ spans := by
  induction front generalizing n with
  | nil =>
    obtain rfl : n = 0 := by simpa using hle
    simp [dropChars]
  | cons c front ih =>
    cases n with
    | zero => rw [dropChars]; rfl
    | succ n =>
      rw [List.map_cons, List.cons_append, dropChars, ih (by simpa using hle)]
      rfl

theorem map_blanked_outside_append (front : List Char) (spans : List Span) :
    (front.map Span.outside ++ spans).map Span.blanked = front ++ spans.map Span.blanked := by
  simp [Span.blanked, Function.comp_def]

theorem plainSpan?_nil (receiver : List Char) (before : Option Char) :
    plainSpan? receiver before [] = none := by
  cases receiver <;> rfl

/-- Nothing is passed over at a blank. -/
theorem excluded?_blank (hblank : ' ' ∉ receiver) (before : Option Char) (text : List Char) :
    excluded? receiver before (' ' :: text) = none := by
  have hnone : literal? before (' ' :: text) = none := by
    rw [literal?_of_not_mark rfl]
    exact bareLiteral?_of_not_quote rfl _
  rw [excluded?_eq_plainSpan? receiver hnone]
  exact (plainSpan?_append hblank isStop_blank before [] text).trans (plainSpan?_nil _ _)

/-- A blank in the place of the first literal ends what is in front of it. -/
theorem excluded?_blanked (hblank : ' ' ∉ receiver) {before : Option Char} {text : List Char}
    (front : List Char) {marks content : List Char} {q : Char} {later : List Span}
    (h : Scans before text (front.map .outside ++ .literal marks q content :: later)) :
    excluded? receiver before (front ++ ' ' :: later.map Span.blanked) =
      plainSpan? receiver before front := by
  have hblanked : (front.map Span.outside ++ .literal marks q content :: later).map Span.blanked =
      front ++ ' ' :: later.map Span.blanked := by
    rw [map_blanked_outside_append, List.map_cons, Span.blanked]
  have hnone : literal? before (front ++ ' ' :: later.map Span.blanked) = none :=
    h.literal?_blanked (hblanked ▸ List.suffix_refl _) before
  rw [excluded?_eq_plainSpan? receiver hnone, plainSpan?_append hblank isStop_blank]

theorem Scans.cons_outside {before : Option Char} {c : Char} {text : List Char}
    (h : Scans before text (.outside c :: spans)) :
    ∃ rest, text = c :: rest ∧ literal? before text = none ∧ Scans (some c) rest spans := by
  cases h with
  | outside hnone h => exact ⟨_, rfl, hnone, h⟩

theorem isAsciiNameStart_of_mark {c : Char} (h : isLiteralMark c = true) :
    isAsciiNameStart c = true := by
  have hall : "rRbBuUfF".toList.all isAsciiNameStart = true := by decide
  exact List.all_eq_true.1 hall c (mem_marks h)

/-- A point takes marks of a literal behind it for an attribute. What is left of the literal is one
all the same. -/
theorem blankMatches_point {before : Option Char} {text content : List Char} {q : Char}
    {later : List Span} (hne : marks ≠ []) (hquote : ∀ c ∈ receiver, isQuote c = false)
    (h : Scans before text (.outside '.' :: .literal marks q content :: later)) :
    ∃ rest, rest.length < text.length ∧ Scans (some q) rest later ∧
      blankMatches (excluded? receiver) 0 before text =
        ' ' :: ' ' :: blankMatches (excluded? receiver) 0 (some q) rest := by
  have hfront : front? (.outside '.' :: .literal marks q content :: later) = some ('.' :: marks) :=
    rfl
  obtain ⟨mark, others, rfl⟩ := List.exists_cons_of_ne_nil hne
  have hall := h
  obtain ⟨text, rfl, hnone, hliteral⟩ := h.cons_outside
  cases hliteral with
  | @literal _ _ _ text _ _ hmarks hq hliteral h =>
    have hword : ∀ c ∈ others, isWordChar c = true := fun c hc =>
      isWordChar_of_mark (hmarks c (List.mem_cons_of_mem _ hc))
    have hmatch : excluded? receiver before
        ('.' :: (mark :: others ++ q :: (content ++ q :: text))) =
          some ('.' :: mark :: others).length := by
      have hspan : capitalOrAttribute? before ('.' :: mark :: others) =
          some (2 + others.length) := by
        have htake : others.takeWhile isWordChar = others := by simpa using hword
        have hstart := isAsciiNameStart_of_mark (hmarks mark List.mem_cons_self)
        rw [capitalOrAttribute?, if_neg (by decide), if_pos rfl]
        simp only [hstart, htake, if_true]
      rw [excluded?_of_front hquote hall hfront hnone, plainSpan?, hspan, List.length_cons,
        List.length_cons, Nat.add_comm]
      rfl
    have hbare : literal? (mark :: others).getLast? ([] ++ q :: (content ++ q :: text)) =
        some (([] : List Char).length + content.length + 2) := by
      rw [Nat.add_assoc] at hliteral
      rw [List.nil_append, literal?_of_quote hq, bareLiteral?_of_literal? hmarks hq hliteral]
      simp
    refine ⟨text, by simp only [List.length_cons, List.length_append]; omega, h, ?_⟩
    have hpoint : ('.' :: mark :: others).getLast? = (mark :: others).getLast? := rfl
    rw [← List.cons_append] at hmatch ⊢
    rw [blankMatches_match (by simp) hmatch, hpoint, ← List.nil_append (q :: _),
      blankMatches_literal (excluded?_of_literal hbare)]

/-- In front of the first literal, what is passed over is the same without its marks, but for an
attribute that they look like. -/
theorem Scans.plainSpan?_front {before : Option Char} {text content : List Char} {q c : Char}
    {later : List Span}
    (h : Scans before text ((c :: front).map .outside ++ .literal marks q content :: later))
    (hclear : ¬ RunsIntoMarks receiver
      ((c :: front).map .outside ++ .literal marks q content :: later))
    (hpoint : marks ≠ [] → c :: front ≠ ['.']) :
    plainSpan? receiver before (c :: front ++ marks) = plainSpan? receiver before (c :: front) := by
  have hchars : ((c :: front).map Span.outside).flatMap Span.chars = c :: front := by
    simp [List.flatMap_map, Span.chars]
  obtain ⟨rest, hrest⟩ := h.of_append
  rw [hchars, List.getLast?_eq_some_getLast (List.cons_ne_nil c front), Option.some_or] at hrest
  have hruns {start : List Char} (hmarks : marks ≠ []) (hstart : start = c :: front)
      (hreceiver : receiver = start ∨ receiver = start ++ marks) : False := by
    subst hstart
    refine hclear ⟨_, marks, q, content, later, c :: front, rfl, hmarks, List.cons_ne_nil c front,
      hchars.symm ▸ List.suffix_refl _, hreceiver⟩
  cases hrest with
  | literal hmarks _ hliteral =>
    refine plainSpan?_marks (fun d hd => isWordChar_of_mark (hmarks d hd)) (fun hne => ?_)
      (List.cons_ne_nil c front) hpoint
      (fun hne => ⟨fun heq => hruns hne rfl (.inl heq), fun heq => hruns hne rfl (.inr heq)⟩) before
    obtain ⟨mark, marks, rfl⟩ := List.exists_cons_of_ne_nil hne
    rw [List.getLast?_eq_some_getLast (List.cons_ne_nil c front)]
    exact not_word_before_marks (hmarks mark List.mem_cons_self) hliteral

/-- The scan for free names leaves the same words of a text with its literals and without. -/
def LeavesSame (receiver : List Char) (before : Option Char) (text : List Char)
    (spans : List Span) : Prop :=
  ∀ kept, words (kept ++ blankMatches (excluded? receiver) 0 before text) =
    words (kept ++ blankMatches (excluded? receiver) 0 before (spans.map Span.blanked))

section

variable {before : Option Char} {text content : List Char} {q : Char} {later : List Span}

theorem isWordChar_blank : isWordChar ' ' = false := by decide

theorem leavesSame_literal (hblank : ' ' ∉ receiver)
    (h : Scans before text (.literal marks q content :: later))
    (hlater : ∀ rest, rest.length < text.length → Scans (some q) rest later →
      LeavesSame receiver (some q) rest later) :
    LeavesSame receiver before text (.literal marks q content :: later) := by
  intro kept
  cases h with
  | @literal _ _ _ rest _ _ _ hq hliteral h =>
    have hedge : (some ' ').any isWordChar = (some q).any isWordChar :=
      isWordChar_blank.trans (isWordChar_of_quote hq).symm
    have hshorter : rest.length < (marks ++ q :: (content ++ q :: rest)).length := by
      simp only [List.length_append, List.length_cons]
      omega
    rw [blankMatches_literal (excluded?_of_literal hliteral), List.map_cons, Span.blanked,
      blankMatches, excluded?_blank hblank, words_append_cons_of_not isWordChar_blank,
      words_append_cons_of_not isWordChar_blank, blankMatches_congr hedge]
    exact congrArg _ (hlater rest hshorter h [])

theorem plainSpan?_point (receiver : List Char) (before : Option Char) :
    plainSpan? receiver before ['.'] = none := by
  have hpoint : isWordChar '.' = false := by decide
  match receiver with
  | [] => rfl
  | [c] => by_cases hc : c = '.' <;> simp [plainSpan?, capitalOrAttribute?, label?, receiver?,
      isBoundary, hc, hpoint, isAsciiNameStart_of_not_word]
  | c :: d :: receiver => simp [plainSpan?, capitalOrAttribute?, label?, receiver?,
      List.isPrefixOf, hpoint, isAsciiNameStart_of_not_word]

theorem leavesSame_point (hquote : ∀ c ∈ receiver, isQuote c = false) (hblank : ' ' ∉ receiver)
    (hmarks : marks ≠ [])
    (h : Scans before text (.outside '.' :: .literal marks q content :: later))
    (hlater : ∀ rest, rest.length < text.length → Scans (some q) rest later →
      LeavesSame receiver (some q) rest later) :
    LeavesSame receiver before text (.outside '.' :: .literal marks q content :: later) := by
  intro kept
  have hpoint := (excluded?_blanked hblank ['.'] h).trans (plainSpan?_point _ _)
  obtain ⟨rest, hshorter, hrest, htext⟩ := blankMatches_point hmarks hquote h
  obtain ⟨_, -, -, hliteral⟩ := h.cons_outside
  have hedge : (some ' ').any isWordChar = (some q).any isWordChar := by
    cases hliteral with
    | literal _ hq => exact isWordChar_blank.trans (isWordChar_of_quote hq).symm
  rw [List.singleton_append] at hpoint
  rw [htext, List.map_cons, List.map_cons, Span.blanked, Span.blanked, blankMatches, hpoint,
    blankMatches, excluded?_blank hblank, words_append_cons_of_not isWordChar_blank,
    words_append_cons_of_not (by decide), words_cons_of_not isWordChar_blank,
    words_cons_of_not isWordChar_blank, blankMatches_congr hedge]
  exact congrArg _ (hlater rest hshorter hrest [])

theorem leavesSame_char {c : Char} {rest : List Char}
    (hnone : excluded? receiver before (c :: rest) = none)
    (hblanked : excluded? receiver before (c :: spans.map Span.blanked) = none)
    (hrest : LeavesSame receiver (some c) rest spans) :
    LeavesSame receiver before (c :: rest) (.outside c :: spans) := by
  intro kept
  have hkept := hrest (kept ++ [c])
  rw [List.append_assoc, List.append_assoc] at hkept
  rw [blankMatches, hnone, List.map_cons, Span.blanked, blankMatches, hblanked]
  exact hkept

theorem leavesSame_span {skipped rest : List Char} (hne : skipped ≠ [])
    (hspan : excluded? receiver before (skipped ++ rest) = some skipped.length)
    (hblanked : excluded? receiver before (skipped ++ spans.map Span.blanked) =
      some skipped.length)
    (hrest : LeavesSame receiver skipped.getLast? rest spans) :
    LeavesSame receiver before (skipped ++ rest) (skipped.map .outside ++ spans) := by
  intro kept
  rw [map_blanked_outside_append, blankMatches_match hne hspan, blankMatches_match hne hblanked,
    words_append_cons_of_not isWordChar_blank, words_append_cons_of_not isWordChar_blank]
  exact congrArg _ (hrest [])

end

/-- From any place on, the scan for free names leaves the same words with literals and without. -/
theorem Scans.leavesSame (hquote : ∀ c ∈ receiver, isQuote c = false) (hblank : ' ' ∉ receiver)
    {before : Option Char} {text : List Char} (h : Scans before text spans)
    (hclear : ¬ RunsIntoMarks receiver spans) : LeavesSame receiver before text spans := by
  -- one match may take many spans at once, so the induction is not on how the text is taken apart
  induction hlength : text.length using Nat.strong_induction_on generalizing before text spans with
  | _ size ih =>
  subst hlength
  have later (front : List Span) {spans : List Span} {before : Option Char} {rest : List Char}
      (hclear : ¬ RunsIntoMarks receiver (front ++ spans)) (hshorter : rest.length < text.length)
      (h : Scans before rest spans) : LeavesSame receiver before rest spans :=
    ih rest.length hshorter h (fun hruns => hclear (hruns.append front)) rfl
  rcases exists_first spans with ⟨whole, rfl⟩ | ⟨front, marks, q, content, rest, rfl⟩
  · have htext := h.chars_eq
    rw [List.flatMap_map] at htext
    intro kept
    simp [htext, Span.chars, Span.blanked, Function.comp_def]
  cases front with
  | nil =>
    exact leavesSame_literal hblank h fun _ => later [.literal marks q content] hclear
  | cons c front =>
    by_cases hspecial : marks ≠ [] ∧ c :: front = ['.']
    · obtain ⟨hmarks, hpoint⟩ := hspecial
      cases hpoint
      exact leavesSame_point hquote hblank hmarks h fun _ =>
        later [.outside '.', .literal marks q content] hclear
    have hscans := h
    obtain ⟨text, rfl, hnone, hrest⟩ := h.cons_outside
    have hspan := hscans.plainSpan?_front hclear fun hmarks hpoint => hspecial ⟨hmarks, hpoint⟩
    have hmatch := (excluded?_of_front hquote hscans (front?_outside_append ..) hnone).trans hspan
    have hblanked := excluded?_blanked hblank (c :: front) hscans
    cases hplain : plainSpan? receiver before (c :: front) with
    | none =>
      rw [hplain] at hmatch hblanked
      rw [List.cons_append, ← Span.blanked, ← List.map_cons, ← map_blanked_outside_append]
        at hblanked
      exact leavesSame_char hmatch hblanked (later [.outside c] hclear (by simp) hrest)
    | some n =>
      have hends := endsWell_plainSpan? hplain
      obtain ⟨hshorter, hlater, -⟩ := hscans.blankMatches_front (front?_outside_append ..)
        (endsWell_plainSpan? (hspan.trans hplain)) (hmatch.trans hplain)
      rw [List.take_append_of_le_length hends.le, dropChars_outside_append hends.le] at hlater
      obtain ⟨_, _, htext, -⟩ := hscans.eq_append_of_front? (front?_outside_append ..)
      have htake : (c :: text).take n = (c :: front).take n := by
        rw [htext, List.append_assoc, List.take_append_of_le_length hends.le]
      have hlength := List.length_take_of_le hends.le
      have hne : (c :: front).take n ≠ [] := by
        rw [← List.length_pos_iff, hlength]
        exact hends.pos
      rw [hplain] at hmatch hblanked
      rw [← List.take_append_drop n (c :: front), List.map_append, List.append_assoc] at hclear ⊢
      rw [← List.take_append_drop n (c :: text), htake] at hmatch ⊢
      rw [← List.take_append_drop n (c :: front), List.append_assoc] at hblanked
      refine leavesSame_span hne (by rw [hmatch, hlength]) ?_ (later _ hclear hshorter hlater)
      rw [map_blanked_outside_append, hlength]
      exact hblanked

/-! ### Free names -/

/-- A receiver that is one word, or does not run into marks of the literals in a text. -/
def IsClear (receiver text : List Char) : Prop :=
  (∀ c ∈ receiver, isWordChar c = true) ∨
    ∀ spans, Scans none text spans → ¬ RunsIntoMarks receiver spans

theorem freeNames_stripLiterals (hreceiver : isIdentifier receiver = true) {text : List Char}
    (h : IsClear receiver text) :
    freeNames receiver (stripLiterals text) = freeNames receiver text := by
  obtain ⟨spans, hscans⟩ := exists_scans none text
  have hclear : ¬ RunsIntoMarks receiver spans :=
    h.elim hscans.not_runsIntoMarks fun hall => hall spans hscans
  have hwords := hscans.leavesSame (isQuote_of_identifier hreceiver)
    (not_mem_identifier hreceiver (by decide)) hclear []
  rw [List.nil_append, List.nil_append] at hwords
  rw [freeNames, freeNames, stripLiterals, hscans.stripLiterals_eq, hwords]

/-- A text has the same free names with its literals and without them, if the receiver is clear of
marks. So texts that are the same without literals have the same free names, and take the same
parameters where they take their free names. -/
theorem literals_found_alike {operandName : List Char} (hreceiver : isIdentifier receiver = true)
    {text other : String} (h : IsClear receiver text.toList) (h' : IsClear receiver other.toList) :
    freeNames receiver (stripLiterals text.toList) = freeNames receiver text.toList ∧
    (stripLiterals text.toList = stripLiterals other.toList →
      freeNames receiver text.toList = freeNames receiver other.toList ∧
      ∀ s s', read operandName receiver text = .ok s → read operandName receiver other = .ok s' →
        s.form = .implicit → s'.form = .implicit → s.parameters = s'.parameters) := by
  refine ⟨freeNames_stripLiterals hreceiver h, fun hsame => ?_⟩
  have hnames : freeNames receiver text.toList = freeNames receiver other.toList := by
    rw [← freeNames_stripLiterals hreceiver h, hsame, freeNames_stripLiterals hreceiver h']
  refine ⟨hnames, fun s s' hread hread' hform hform' => ?_⟩
  rw [parameters_of_implicit hread hform, parameters_of_implicit hread' hform', hnames]

/-- A text in which the mark of a literal looks like an attribute. -/
def markedText : String := String.ofList ['a', '.', 'f', '\'', 'b', '\'', '+', 'c']

/-- A text that is the same without literals. -/
def unmarkedText : String := String.ofList ['a', '.', '"', '"', '+', 'c']

theorem literals_found_alike_point :
    stripLiterals markedText.toList = stripLiterals unmarkedText.toList ∧
      freeNames ['s'] (stripLiterals markedText.toList) = ["a", "c"] ∧
      freeNames ['s'] unmarkedText.toList = ["a", "c"] := by
  have hword : isWordChar 's' = true := by decide
  have hclear : ∀ text, IsClear ['s'] text := fun _ => .inl (List.forall_mem_singleton.2 hword)
  have hsame : stripLiterals markedText.toList = stripLiterals unmarkedText.toList := by decide
  have hnames : freeNames ['s'] markedText.toList = ["a", "c"] := by decide +kernel
  obtain ⟨hfree, hboth⟩ := @literals_found_alike ['s'] ['_'] (by decide) markedText unmarkedText
    (hclear _) (hclear _)
  exact ⟨hsame, hfree.trans hnames, (hboth hsame).1 ▸ hnames⟩

/-- A receiver that ends with a mark hides a word in front of it, as long as the literal is there. -/
theorem receiver_runs_into_marks :
    isIdentifier ['a', '·', 'f'] = true ∧
      freeNames ['a', '·', 'f'] ['a', '·', 'f', '\'', '\''] = [] ∧
      freeNames ['a', '·', 'f'] (stripLiterals ['a', '·', 'f', '\'', '\'']) = ["a"] := by
  obtain ⟨hrest, hdot⟩ := middleDot
  have ha : isWordChar 'a' = true := by decide
  have hf : isWordChar 'f' = true := by decide
  have hquote : isWordChar '\'' = false := by decide
  refine ⟨?_, ?_, ?_⟩
  · have hstart : isIdentifierStart 'a' = true ∧ isIdentifierRest 'f' = true := by decide
    simp [isIdentifier, hstart, hrest]
  · have hspan : excluded? ['a', '·', 'f'] none ['a', '·', 'f', '\'', '\''] = some 3 := by
      have hliteral : literal? none ['a', '·', 'f', '\'', '\''] = none := rfl
      have hcapital : capitalOrAttribute? none ['a', '·', 'f', '\'', '\''] = none := rfl
      have hlabel : label? none ['a', '·', 'f', '\'', '\''] = none := by simp [label?, hdot]
      have hreceiver : receiver? ['a', '·', 'f'] none ['a', '·', 'f', '\'', '\''] = some 3 := by
        simp [receiver?, isBoundary, ha, hf, hquote]
      simp [excluded?, hliteral, hcapital, hlabel, hreceiver]
    have hquoted : excluded? ['a', '·', 'f'] (some 'f') ['\'', '\''] = some 2 :=
      excluded?_of_literal rfl
    have hwords : words [' ', ' '] = [] := by decide
    rw [freeNames, blankMatches, hspan]
    simp [blankMatches, hquoted, hwords, firstOccurrences]
  · have hmark : (isLiteralMark 'f' && isBoundary (some '·') (some 'f')) = true := by
      rw [isBoundary, Option.any_some, hdot, Option.any_some, hf]
      rfl
    have hliteral : literal? (some '·') ['f', '\'', '\''] = some 3 := by
      rw [literal?_of_mark hmark]
      rfl
    have hscans : Scans none ['a', '·', 'f', '\'', '\'']
        [.outside 'a', .outside '·', .literal ['f'] '\'' []] :=
      .outside rfl (.outside rfl (@Scans.literal (some '·') ['f'] [] [] '\'' []
        (List.forall_mem_singleton.2 rfl) rfl hliteral (.done _)))
    have hnone : excluded? ['a', '·', 'f'] (some '·') [' '] = none :=
      excluded?_blank (by decide) _ _
    have hpoint : excluded? ['a', '·', 'f'] (some 'a') ['·', ' '] = none := by
      simp [excluded?, literal?, bareLiteral?, capitalOrAttribute?, label?, receiver?,
        List.isPrefixOf, isAsciiNameStart_of_not_word, hdot, isLiteralMark]
    have hfirst : excluded? ['a', '·', 'f'] none ['a', '·', ' '] = none := by
      simp [excluded?, literal?, bareLiteral?, capitalOrAttribute?, label?, receiver?,
        List.isPrefixOf, hdot, isLiteralMark]
    have hkept : blankMatches (excluded? ['a', '·', 'f']) 0 none ['a', '·', ' '] =
        ['a', '·', ' '] := by
      rw [blankMatches, hfirst, blankMatches, hpoint, blankMatches, hnone, blankMatches]
    have hwords : words ['a', '·', ' '] = [['a']] :=
      (words_append_cons_of_not hdot ['a'] [' ']).trans (by decide)
    have hname : mayBeName ['a'] = true := by decide +kernel
    rw [stripLiterals, hscans.stripLiterals_eq, freeNames]
    simp [Span.blanked, hkept, hwords, hname, firstOccurrences]

end LambdaText.Source
