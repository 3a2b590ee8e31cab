import LambdaText.Proofs.Source.Excluded
import LambdaText.Proofs.Source.FreeWords
import LambdaText.Proofs.Source.Occurrences

/-!
# Which names are free

The scan for free names goes from the edge of a word to the edge of a word: it passes over
characters in which no word that stands free starts, or keeps a word that does. So the free names of
a text are the words that stand free, each of them once, in the order in which they first do so. A
receiver that is no word, but holds words, hides these where it is passed over as a whole.
-/

namespace LambdaText.Source

open LambdaText.Text

variable {receiver front ahead word rest : List Char} {marks : List (Char × Bool)}

/-! ### Spans without free words -/

/-- A span that is passed over does not end with a point. -/
theorem PlainSpan.getLast?_ne {span : List Char} (h : PlainSpan receiver span rest)
    (hpoint : '.' ∉ receiver) : span.getLast? ≠ some '.' := by
  have hword : isWordChar '.' = false := by decide
  intro hlast
  cases h with
  | capital _ hall =>
    have := hall _ (List.mem_of_getLast? hlast)
    simp_all
  | @point word rest hne hall =>
    rw [List.getLast?_cons_of_ne_nil hne] at hlast
    have := hall _ (List.mem_of_getLast? hlast)
    simp_all
  | label => simp at hlast
  | receiver => exact hpoint (List.mem_of_getLast? hlast)

/-- A span that is passed over holds no quote. -/
theorem PlainSpan.isQuote {span : List Char} (h : PlainSpan receiver span rest)
    (hquote : ∀ c ∈ receiver, isQuote c = false) : ∀ c ∈ span, Source.isQuote c = false := by
  have hword : ∀ c, isWordChar c = true → Source.isQuote c = false := by
    intro c hc
    by_contra hq
    rw [isWordChar_of_quote (by simpa using hq)] at hc
    cases hc
  cases h with
  | capital _ hall => exact fun c hc => hword c (hall c hc)
  | point _ hall =>
    exact List.forall_mem_cons.2 ⟨by decide, fun c hc => hword c (hall c hc)⟩
  | label _ hall =>
    simp only [List.mem_append, List.mem_singleton]
    rintro c (hc | rfl)
    · exact hword c (hall c hc)
    · decide
  | receiver => exact hquote

/-- A receiver that is one word in a text, or does not occur in it. -/
def IsPlain (receiver text : List Char) : Prop :=
  (∀ c ∈ receiver, isWordChar c = true) ∨ ¬ receiver <:+: text

/-- No word that stands free starts in a span that is passed over. -/
theorem PlainSpan.not_isFreeWord {span a after : List Char} (h : PlainSpan receiver span rest)
    (hplain : IsPlain receiver (front ++ (span ++ rest)))
    (htext : span ++ rest = a ++ word ++ after) (hlt : a.length < span.length) :
    ¬ IsFreeWord receiver (front ++ a).getLast? word after.head? := by
  intro hfree
  -- but for the point of an attribute, a free word could only be the run at the start of the span
  have whole {run tail : List Char} (hrun : ∀ c ∈ run, isWordChar c = true)
      (htail : tail.head?.any isWordChar = false) (hall : run ++ tail = a ++ word ++ after)
      (hle : a.length ≤ run.length) : a = [] ∧ word = run := by
    have hnil := hfree.eq_nil_of_run hrun hall hle
    subst hnil
    exact ⟨rfl, hfree.eq_run hrun htail hall⟩
  cases h with
  | @capital c run _ hcapital hrun hrest =>
    obtain ⟨-, rfl⟩ := whole hrun hrest htext hlt.le
    obtain ⟨d, hd, hstart⟩ := hfree.start
    cases hd
    rcases hstart with hsmall | rfl
    · exact absurd (Char.le_trans hsmall.1 hcapital.2) (show ¬ 'a' ≤ 'Z' by decide)
    · exact absurd hcapital.2 (by decide)
  | @point run _ hne hrun hrest =>
    cases a with
    | nil =>
      obtain ⟨d, word, rfl⟩ := List.exists_cons_of_ne_nil hfree.ne_nil
      have hd : '.' = d := (List.cons.inj htext).1
      exact absurd (hfree.allWord d List.mem_cons_self) (hd ▸ by decide)
    | cons d a =>
      obtain ⟨hd, htail⟩ := List.cons.inj htext
      rw [← hd, List.append_cons] at hfree
      have hnil := hfree.eq_nil_of_run hrun htail (by simpa using hlt.le)
      subst hnil
      exact hfree.noPoint (by simp)
  | @label run _ hne hrun =>
    rw [List.append_assoc] at htext
    rw [List.length_append, List.length_singleton, Nat.lt_succ_iff] at hlt
    have hcolon : (':' :: rest).head?.any isWordChar = false :=
      show isWordChar ':' = false by decide
    obtain ⟨rfl, rfl⟩ := whole hrun hcolon htext hlt
    rw [List.nil_append, List.append_cancel_left_eq] at htext
    exact hfree.noColon (by rw [← htext]; rfl)
  | receiver hne hedge =>
    rcases hplain with hall | hnot
    · have hlast := getLast?_run hall hne
      have hrest := (edge_of_isBoundary hedge).resolve_left (by simp [hlast])
      exact hfree.ne_receiver (whole hall hrest htext hlt.le).2
    · exact hnot ⟨front, rest, by simp⟩

/-! ### The scan -/

/-- A place between words where the scan for free names goes on. -/
structure AtEdge (front text : List Char) (spans : List Span) : Prop where
  scans : Scans front.getLast? text spans
  edge : front.getLast?.any isWordChar = false ∨ text.head?.any isWordChar = false
  point : front.getLast? = some '.' → text.head?.any isAsciiNameStart = false

theorem exists_append_of_not_mem {marks tail skipped rest : List Char} {q : Char}
    (h : marks ++ q :: tail = skipped ++ rest) (hq : q ∉ skipped) :
    ∃ between, marks = skipped ++ between ∧ rest = between ++ q :: tail := by
  rcases List.append_eq_append_iff.1 h with ⟨extra, rfl, hrest⟩ | hbetween
  · cases extra with
    | nil => exact ⟨[], by simp, hrest.symm⟩
    | cons c extra =>
      obtain ⟨rfl, -⟩ := List.cons.inj hrest
      simp at hq
  · exact hbetween

/-- Behind a part without quotes that ends at the edge of a word, the scanner goes on as before. -/
theorem Scans.skip {before : Option Char} {text skipped rest : List Char} {spans : List Span}
    (h : Scans before text spans) (htext : text = skipped ++ rest)
    (hquote : ∀ c ∈ skipped, isQuote c = false)
    (hedge : skipped.getLast?.any isWordChar = false ∨ rest.head?.any isWordChar = false) :
    ∃ marks later, marked spans = marks ++ marked later ∧ marks.map Prod.fst = skipped ∧
      Scans (skipped.getLast?.or before) rest later := by
  cases skipped with
  | nil =>
    subst htext
    exact ⟨[], spans, rfl, rfl, h⟩
  | cons d skipped =>
  induction h generalizing d skipped with
  | done => cases htext
  | @outside before c text spans hnone h ih =>
    obtain ⟨rfl, rfl⟩ := List.cons.inj htext
    rw [getLast?_cons_or]
    cases skipped with
    | nil => exact ⟨[(c, true)], spans, rfl, rfl, h⟩
    | cons e skipped =>
      rw [List.getLast?_cons_cons] at hedge
      obtain ⟨marks, later, hmarked, hfst, hlater⟩ :=
        ih e skipped rfl (fun c hc => hquote c (List.mem_cons_of_mem _ hc)) hedge
      exact ⟨(c, true) :: marks, later, congrArg _ hmarked, congrArg _ hfst, hlater⟩
  | @literal before marks content text q spans hmarks hq hliteral h _ =>
    -- without quotes the part lies within the marks of the literal
    have hnot : q ∉ d :: skipped := fun hmem => by
      rw [hquote q hmem] at hq
      cases hq
    obtain ⟨between, rfl, hrest⟩ := exists_append_of_not_mem htext hnot
    have hedge : (d :: skipped).getLast?.any isWordChar = false ∨
        between.head?.any isWordChar = false := by
      refine hedge.imp_right fun hhead => ?_
      cases between with
      | nil => rfl
      | cons e between =>
        rw [hrest] at hhead
        exact hhead
    have hlater := (Scans.literal hmarks hq hliteral h).dropChars rfl hedge
    rw [htext, List.drop_left] at hlater
    refine ⟨(d :: skipped).map (·, false), _, ?_, by simp [Function.comp_def], hlater⟩
    simp [marked, Source.dropChars, Span.marked, Span.chars]

theorem literal?_of_inside {before : Option Char} {c : Char} {text : List Char}
    (hbefore : before.any isWordChar = true) (hc : isWordChar c = true) :
    literal? before (c :: text) = none := by
  cases h : literal? before (c :: text) with
  | none => rfl
  | some n =>
    obtain ⟨marks, q, content, rest, htext, hmarks, hq, -⟩ := literal?_eq_some h
    cases marks with
    | nil =>
      cases htext
      rw [isWordChar_of_quote hq] at hc
      cases hc
    | cons mark marks =>
      cases htext
      rw [not_word_before_marks (hmarks c List.mem_cons_self) h] at hbefore
      cases hbefore

theorem excluded?_of_inside {before : Option Char} {c : Char} {text : List Char}
    (hbefore : before.any isWordChar = true) (hc : isWordChar c = true) :
    excluded? receiver before (c :: text) = none := by
  have hinside : isBoundary before (some c) = false := by simp [isBoundary, hbefore, hc]
  have hpoint : c ≠ '.' := by
    rintro rfl
    revert hc
    decide
  simp [excluded?, literal?_of_inside hbefore hc, capitalOrAttribute?, label?, receiver?, hinside,
    hpoint]

/-- A run outside of literals is marked as such. -/
theorem Scans.run {before : Option Char} {text run rest : List Char} {spans : List Span}
    (h : Scans before text spans) (htext : text = run ++ rest)
    (hrun : ∀ c ∈ run, isWordChar c = true)
    (hnone : before.any isWordChar = true ∨ literal? before text = none) :
    ∃ later, marked spans = run.map (·, true) ++ marked later ∧
      Scans (run.getLast?.or before) rest later := by
  induction run generalizing before text spans with
  | nil =>
    subst htext
    exact ⟨spans, rfl, h⟩
  | cons c run ih =>
    rw [List.forall_mem_cons] at hrun
    cases h with
    | done => cases htext
    | outside _ h =>
      obtain ⟨rfl, rfl⟩ := List.cons.inj htext
      obtain ⟨later, hmarked, hlater⟩ := ih h rfl hrun.2 (.inl hrun.1)
      rw [getLast?_cons_or]
      exact ⟨later, congrArg _ hmarked, hlater⟩
    | literal hmarks hquote hliteral =>
      rw [htext] at hliteral hnone
      rcases hnone with hbefore | hnone
      · rw [List.cons_append, literal?_of_inside hbefore hrun.1] at hliteral
        cases hliteral
      · rw [hnone] at hliteral
        cases hliteral

/-- A run is kept if nothing is passed over at its start. -/
theorem blankMatches_run {before : Option Char} {run : List Char}
    (hrun : ∀ c ∈ run, isWordChar c = true)
    (hnone : before.any isWordChar = true ∨ excluded? receiver before (run ++ rest) = none) :
    blankMatches (excluded? receiver) 0 before (run ++ rest) =
      run ++ blankMatches (excluded? receiver) 0 (run.getLast?.or before) rest := by
  induction run generalizing before with
  | nil => rfl
  | cons c run ih =>
    rw [List.forall_mem_cons] at hrun
    have hnone : excluded? receiver before (c :: (run ++ rest)) = none :=
      hnone.elim (fun hbefore => excluded?_of_inside hbefore hrun.1) id
    have hinside : (some c).any isWordChar = true := hrun.1
    rw [getLast?_cons_or, List.cons_append, blankMatches, hnone, ih hrun.2 (.inl hinside)]
    rfl

theorem head?_blankMatches {text : List Char} (before : Option Char)
    (h : text.head?.any isWordChar = false) :
    (blankMatches (excluded? receiver) 0 before text).head?.any isWordChar = false := by
  cases text with
  | nil => exact h
  | cons c text =>
    rw [blankMatches]
    split
    · exact show isWordChar ' ' = false by decide
    · exact h

theorem words_run {run : List Char} (hrun : ∀ c ∈ run, isWordChar c = true) (hne : run ≠ [])
    {text : List Char} (h : text.head?.any isWordChar = false) :
    words (run ++ text) = run :: words text :=
  runs_append_of_all hrun hne (by cases text <;> simp_all)

theorem words_cons_of_not {c : Char} (hc : isWordChar c = false) (text : List Char) :
    words (c :: text) = words text :=
  runs_cons_of_not hc text

/-! ### What the scan keeps -/

theorem IsFreeWord.mayBeName {before after : Option Char}
    (h : IsFreeWord receiver before word after) : mayBeName word = true := by
  obtain ⟨c, hc, hstart⟩ := h.start
  have hname : isAsciiNameStart c = true := by
    rcases hstart with hsmall | rfl
    · simp [isAsciiNameStart, isAsciiLetter, hsmall]
    · decide
  simp [Source.mayBeName, hc, hname, h.notReserved]

theorem receiver?_run {before : Option Char} {run : List Char}
    (hrun : ∀ c ∈ run, isWordChar c = true) (hne : run ≠ [])
    (hrest : rest.head?.any isWordChar = false) (hbefore : before.any isWordChar = false) :
    receiver? run before (run ++ rest) = some run.length := by
  have hlast := getLast?_run hrun hne
  obtain ⟨c, run, rfl⟩ := List.exists_cons_of_ne_nil hne
  have hc := hrun c List.mem_cons_self
  have hin : (c :: run).isPrefixOf (c :: run ++ rest) = true :=
    List.isPrefixOf_iff_prefix.2 (List.prefix_append _ _)
  rw [receiver?, hin, List.drop_left]
  simp [isBoundary, hbefore, hc, hlast, hrest]

theorem label?_run {before : Option Char} {c : Char} {run : List Char} (after : List Char)
    (hrun : ∀ d ∈ run, isWordChar d = true) (hstart : isAsciiNameStart c = true)
    (hedge : isBoundary before (some c) = true) :
    label? before (c :: run ++ ':' :: after) = some (2 + run.length) := by
  have hcolon : (':' :: after).head?.any isWordChar = false :=
    show isWordChar ':' = false by decide
  have hdrop : run.dropWhile isWordChar = [] := List.dropWhile_eq_nil_iff.2 hrun
  rw [List.cons_append, label?, hstart, hedge, takeWhile_run hrun hcolon,
    dropWhile_word_append (by decide), hdrop]
  rfl

/-- A run where nothing is passed over stands free if it may be a name. -/
theorem isFreeWord_of_excluded? {before : Option Char} {run : List Char}
    (hrun : ∀ c ∈ run, isWordChar c = true) (hrest : rest.head?.any isWordChar = false)
    (hbefore : before.any isWordChar = false)
    (hpoint : before = some '.' → (run ++ rest).head?.any isAsciiNameStart = false)
    (hnone : excluded? receiver before (run ++ rest) = none) (hname : mayBeName run = true) :
    IsFreeWord receiver before run rest.head? := by
  cases run with
  | nil => cases hname
  | cons c run =>
    simp only [mayBeName, List.head?_cons, Option.map_some, Option.getD_some, Bool.and_eq_true,
      Bool.not_eq_true'] at hname
    obtain ⟨hstart, hreserved⟩ := hname
    have hc := hrun c List.mem_cons_self
    have hedge : isBoundary before (some c) = true := by simp [isBoundary, hbefore, hc]
    simp only [excluded?, Option.orElse_eq_none] at hnone
    obtain ⟨-, hcapital, hlabel, hreceiver⟩ := hnone
    refine ⟨hrun, ⟨c, rfl, ?_⟩, hreserved, ?_, hbefore, hrest, ?_, ?_⟩
    · have hsmall : ¬ ('A' ≤ c ∧ c ≤ 'Z') := by
        intro hbig
        simp [capitalOrAttribute?, hbig, hedge] at hcapital
      simp only [isAsciiNameStart, isAsciiLetter, Bool.or_eq_true, Bool.and_eq_true,
        decide_eq_true_eq, beq_iff_eq] at hstart
      rcases hstart with (hstart | hstart) | hstart
      · exact .inl hstart
      · exact absurd hstart hsmall
      · exact .inr hstart
    · rintro rfl
      rw [receiver?_run hrun (List.cons_ne_nil c run) hrest hbefore] at hreceiver
      cases hreceiver
    · intro heq
      rw [List.cons_append, List.head?_cons, Option.any_some, hstart] at hpoint
      exact absurd (hpoint heq) (by simp)
    · intro heq
      obtain ⟨after, rfl⟩ := List.head?_eq_some_iff.1 heq
      rw [label?_run after (fun d hd => hrun d (List.mem_cons_of_mem c hd)) hstart hedge] at hlabel
      cases hlabel

/-- The scan for free names sifts the text. -/
def Sifted (receiver total front text : List Char) (spans : List Span) : Prop :=
  ∃ found, Sifts receiver (IsPlain receiver total) front (marked spans) found ∧
    (words (blankMatches (excluded? receiver) 0 front.getLast? text)).filter mayBeName =
      found.map Prod.snd

theorem le_of_freeAt {skipped : List (Char × Bool)}
    (hfree : FreeAt receiver front (skipped ++ marks) ahead word)
    (hnone : ∀ a after, skipped.map Prod.fst ++ marks.map Prod.fst = a ++ word ++ after →
      a.length < skipped.length → ¬ IsFreeWord receiver (front ++ a).getLast? word after.head?) :
    front.length + skipped.length ≤ ahead.length := by
  obtain ⟨before, after, hmarks, rfl, hword⟩ := hfree
  by_contra hlt
  have htext := congrArg (List.map Prod.fst) hmarks
  simp only [List.map_append, map_fst_outside] at htext
  exact hnone _ _ htext (by simp at hlt ⊢; omega) hword

theorem le_of_freeAt_literal {skipped : List (Char × Bool)}
    (hfree : FreeAt receiver front (skipped ++ marks) ahead word)
    (hall : ∀ mark ∈ skipped, mark.2 = false) :
    front.length + skipped.length ≤ ahead.length := by
  obtain ⟨before, after, hmarks, rfl, hword⟩ := hfree
  obtain ⟨c, word, rfl⟩ := List.exists_cons_of_ne_nil hword.ne_nil
  rw [List.append_assoc] at hmarks
  rcases List.append_eq_append_iff.1 hmarks with ⟨extra, rfl, -⟩ | ⟨extra, rfl, hextra⟩
  · simp
  · cases extra with
    | nil => simp
    | cons mark extra =>
      have hmark : (c, true) = mark := (List.cons.inj hextra).1
      exact absurd (hall mark (by simp)) (by simp [← hmark])

/-- Characters are passed over if no word that stands free starts in them and no word is left of
them that may be a name. -/
theorem Sifted.pass {total text part rest : List Char} {skipped : List (Char × Bool)}
    {spans later : List Span} (h : Sifted receiver total (front ++ part) rest later)
    (hmarked : marked spans = skipped ++ marked later) (hpart : skipped.map Prod.fst = part)
    (hnone : IsPlain receiver total → ∀ ahead word,
      FreeAt receiver front (skipped ++ marked later) ahead word →
        front.length + skipped.length ≤ ahead.length)
    (hwords : (words (blankMatches (excluded? receiver) 0 front.getLast? text)).filter mayBeName =
      (words (blankMatches (excluded? receiver) 0 (front ++ part).getLast? rest)).filter
        mayBeName) :
    Sifted receiver total front text spans := by
  obtain ⟨found, hsifts, hfound⟩ := h
  subst hpart
  exact ⟨found, hmarked ▸ .skip hnone hsifts, hwords.trans hfound⟩

/-- From the edge of a word on, sifting a text comes to sifting what is behind its next part. -/
def Steps (receiver total front text : List Char) (spans : List Span) : Prop :=
  ∃ part rest later, part ≠ [] ∧ text = part ++ rest ∧ AtEdge (front ++ part) rest later ∧
    (Sifted receiver total (front ++ part) rest later → Sifted receiver total front text spans)

theorem steps_literal (total : List Char) {marks content text : List Char} {q : Char}
    {spans : List Span} (hq : isQuote q = true)
    (hliteral : literal? front.getLast? (marks ++ q :: (content ++ q :: text)) =
      some (marks.length + content.length + 2)) (h : Scans (some q) text spans) :
    Steps receiver total front (marks ++ q :: (content ++ q :: text))
      (.literal marks q content :: spans) := by
  have hlast : (front ++ (marks ++ q :: (content ++ [q]))).getLast? = some q := by
    rw [← List.cons_append, ← List.append_assoc, ← List.append_assoc, List.getLast?_concat]
  have hmarked : marked (.literal marks q content :: spans) =
    (marks ++ q :: (content ++ [q])).map (·, false) ++ marked spans := rfl
  refine ⟨_, text, spans, by simp, literal_append marks content text q, ⟨hlast ▸ h, ?_, ?_⟩,
    fun hrest => hrest.pass hmarked ?_ ?_ ?_⟩
  · exact .inl (by rw [hlast]; exact isWordChar_of_quote hq)
  · rw [hlast]
    rintro ⟨⟩
    exact absurd hq (by decide)
  · simp [Function.comp_def]
  · exact fun _ _ _ hfree => le_of_freeAt_literal hfree (by simp)
  · rw [hlast, blankMatches_literal (excluded?_of_literal hliteral), words_cons_of_not (by decide)]

theorem AtEdge.steps_plain {total text : List Char} {spans : List Span}
    (hquote : ∀ c ∈ receiver, isQuote c = false) (hpoint : '.' ∉ receiver)
    (h : AtEdge front text spans) (htotal : front ++ text = total)
    (hnone : literal? front.getLast? text = none) {n : Nat}
    (hspan : plainSpan? receiver front.getLast? text = some n) :
    Steps receiver total front text spans := by
  have hmatch := (excluded?_eq_plainSpan? receiver hnone).trans hspan
  obtain ⟨span, rest, rfl, rfl, hplain⟩ := plainSpan?_eq_some hspan
  obtain ⟨skipped, later, hmarked, hfst, hscans⟩ :=
    h.scans.skip rfl (hplain.isQuote hquote) hplain.edge
  have hlast : (front ++ span).getLast? = span.getLast? :=
    List.getLast?_append_of_ne_nil front hplain.ne_nil
  rw [← List.getLast?_append] at hscans
  refine ⟨span, rest, later, hplain.ne_nil, rfl, ⟨hscans, hlast ▸ hplain.edge, ?_⟩,
    fun hrest => hrest.pass hmarked hfst (fun hin ahead word hfree => ?_) ?_⟩
  · exact fun heq => absurd (hlast ▸ heq) (hplain.getLast?_ne hpoint)
  · refine le_of_freeAt hfree fun a after htext hlt => ?_
    rw [hfst, hscans.map_fst_marked] at htext
    exact hplain.not_isFreeWord (htotal ▸ hin) htext (by simpa [← hfst] using hlt)
  · rw [blankMatches_match hplain.ne_nil hmatch, words_cons_of_not (by decide), hlast]

theorem AtEdge.steps_char {total text : List Char} {c : Char} {spans : List Span}
    (h : AtEdge front (c :: text) spans) (hc : isWordChar c = false)
    (hnone : excluded? receiver front.getLast? (c :: text) = none) :
    Steps receiver total front (c :: text) spans := by
  have hmatch := hnone
  simp only [excluded?, Option.orElse_eq_none] at hnone
  obtain ⟨hliteral, hcapital, -, -⟩ := hnone
  have hlast : (front ++ [c]).getLast? = some c := by simp
  obtain ⟨later, hspans, hscans⟩ : ∃ later, spans = .outside c :: later ∧
      Scans (some c) text later := by
    have hscans := h.scans
    generalize hwhole : c :: text = whole at hscans hliteral
    cases hscans with
    | done => cases hwhole
    | outside _ hscans =>
      cases hwhole
      exact ⟨_, rfl, hscans⟩
    | literal _ _ hfound => rw [hfound] at hliteral; cases hliteral
  have hmarked : marked spans = [(c, true)] ++ marked later := by rw [hspans]; rfl
  refine ⟨[c], text, later, by simp, rfl, ⟨hlast ▸ hscans, .inl (by simpa using hc), ?_⟩,
    fun hrest => hrest.pass hmarked rfl (fun _ ahead word hfree => ?_) ?_⟩
  · rw [hlast]
    rintro ⟨⟩
    cases text with
    | nil => rfl
    | cons d text => simpa [capitalOrAttribute?] using hcapital
  · refine le_of_freeAt hfree fun a after htext hlt hword => ?_
    have ha : a = [] := by simpa using hlt
    obtain ⟨d, word, rfl⟩ := List.exists_cons_of_ne_nil hword.ne_nil
    subst ha
    have hd : c = d := (List.cons.inj htext).1
    rw [hd, hword.allWord d List.mem_cons_self] at hc
    cases hc
  · rw [hlast, blankMatches, hmatch, words_cons_of_not hc]

theorem AtEdge.steps_run {total text : List Char} {c : Char} {spans : List Span}
    (h : AtEdge front (c :: text) spans) (hc : isWordChar c = true)
    (hnone : excluded? receiver front.getLast? (c :: text) = none) :
    Steps receiver total front (c :: text) spans := by
  obtain ⟨run, rest, htext, hne, hrun, hrest⟩ : ∃ run rest, c :: text = run ++ rest ∧ run ≠ [] ∧
      (∀ d ∈ run, isWordChar d = true) ∧ rest.head?.any isWordChar = false :=
    ⟨c :: text.takeWhile isWordChar, text.dropWhile isWordChar, by simp, by simp,
      List.forall_mem_cons.2 ⟨hc, mem_takeWhile_word⟩, head?_dropWhile_word text⟩
  have hbefore : front.getLast?.any isWordChar = false := h.edge.resolve_right (by simp [hc])
  rw [htext] at h hnone ⊢
  have hliteral : literal? front.getLast? (run ++ rest) = none :=
    ((Option.orElse_eq_none ..).1 hnone).1
  obtain ⟨later, hmarked, hscans⟩ := h.scans.run rfl hrun (.inr hliteral)
  have hblank := blankMatches_run hrun (.inr hnone)
  rw [← List.getLast?_append] at hscans hblank
  have hlast : (front ++ run).getLast?.any isWordChar = true := by
    rw [List.getLast?_append_of_ne_nil front hne]
    exact getLast?_run hrun hne
  have hwords := words_run hrun hne (@head?_blankMatches receiver _ (front ++ run).getLast? hrest)
  refine ⟨run, rest, later, hne, rfl, ⟨hscans, .inr hrest, fun heq => ?_⟩, fun hlater => ?_⟩
  · rw [heq] at hlast
    exact absurd hlast (by decide)
  by_cases hname : mayBeName run = true
  · obtain ⟨found, hsifts, hfound⟩ := hlater
    have hword := isFreeWord_of_excluded? hrun hrest hbefore h.point hnone hname
    refine ⟨(front, run) :: found, ?_, ?_⟩
    · rw [hmarked]
      exact .keep (by rwa [hscans.map_fst_marked]) hsifts
    · rw [hblank, hwords, List.filter_cons_of_pos hname, hfound, List.map_cons]
  · refine hlater.pass hmarked (map_fst_outside run) (fun _ ahead word hfree => ?_) ?_
    · refine le_of_freeAt hfree fun a after htext hlt hword => ?_
      rw [map_fst_outside, hscans.map_fst_marked] at htext
      rw [List.length_map] at hlt
      have hnil := hword.eq_nil_of_run hrun htext hlt.le
      subst hnil
      rw [← hword.eq_run hrun hrest htext] at hname
      exact hname hword.mayBeName
    · rw [hblank, hwords, List.filter_cons_of_neg hname]

/-- From the edge of a word on, the scan for free names sifts the text. -/
theorem AtEdge.sifted {total text : List Char} {spans : List Span}
    (hquote : ∀ c ∈ receiver, isQuote c = false) (hpoint : '.' ∉ receiver)
    (h : AtEdge front text spans) (htotal : front ++ text = total) :
    Sifted receiver total front text spans := by
  -- a step may take many spans at once, so the induction is not on how the text is taken apart
  induction hlength : text.length using Nat.strong_induction_on
    generalizing front text spans with
  | _ size ih =>
  subst hlength
  have step (hsteps : Steps receiver total front text spans) :
      Sifted receiver total front text spans := by
    obtain ⟨part, rest, later, hne, rfl, hlater, hrest⟩ := hsteps
    refine hrest (ih rest.length ?_ hlater (by rw [← htotal, List.append_assoc]) rfl)
    have := List.length_pos_iff.2 hne
    rw [List.length_append]
    omega
  have hscans := h.scans
  cases hscans with
  | done => exact ⟨[], .done front, rfl⟩
  | literal _ hq hliteral hlater => exact step (steps_literal total hq hliteral hlater)
  | @outside _ c text spans hnone _ =>
    cases hspan : plainSpan? receiver front.getLast? (c :: text) with
    | some n => exact step (h.steps_plain hquote hpoint htotal hnone hspan)
    | none =>
      have hnone := (excluded?_eq_plainSpan? receiver hnone).trans hspan
      cases hc : isWordChar c with
      | false => exact step (h.steps_char hc hnone)
      | true => exact step (h.steps_run hc hnone)

/-! ### Free names -/

theorem exists_sifts {receiver : List Char} (h : isIdentifier receiver = true) (text : List Char) :
    ∃ spans found, Scans none text spans ∧
      Sifts receiver (IsPlain receiver text) [] (marked spans) found ∧
      freeNames receiver text = firstOccurrences (found.map fun p => String.ofList p.2) := by
  obtain ⟨spans, hscans⟩ := exists_scans none text
  have hedge : AtEdge [] text spans := ⟨hscans, .inl rfl, fun heq => nomatch heq⟩
  obtain ⟨found, hsifts, hfound⟩ :=
    hedge.sifted (isQuote_of_identifier h) (not_mem_identifier h (by decide)) (List.nil_append text)
  refine ⟨spans, found, hscans, hsifts, ?_⟩
  rw [freeNames]
  simp only [List.getLast?_nil] at hfound
  simp only [hfound, List.map_map, Function.comp_def]

/-- The free names of a text are words that stand free, each of them once. If the receiver is plain,
they are all such words, in the order in which these first stand free. -/
theorem freeNames_freeAt {receiver : List Char} (h : isIdentifier receiver = true)
    (text : List Char) :
    ∃ spans, Scans none text spans ∧
      (∀ n ∈ freeNames receiver text, ∃ ahead,
        FreeAt receiver [] (marked spans) ahead n.toList) ∧
      (freeNames receiver text).Nodup ∧
      (IsPlain receiver text →
        (∀ n : String, n ∈ freeNames receiver text ↔ ∃ ahead,
          FreeAt receiver [] (marked spans) ahead n.toList) ∧
        (freeNames receiver text).Pairwise fun n m => ∃ ahead,
          FreeAt receiver [] (marked spans) ahead n.toList ∧
          ∀ other, FreeAt receiver [] (marked spans) other m.toList →
            ahead.length < other.length) := by
  obtain ⟨spans, found, hscans, hsifts, hnames⟩ := exists_sifts h text
  have sound : ∀ n ∈ freeNames receiver text, ∃ ahead,
      FreeAt receiver [] (marked spans) ahead n.toList := by
    intro n hn
    rw [hnames, mem_firstOccurrences, List.mem_map] at hn
    obtain ⟨p, hp, rfl⟩ := hn
    rw [String.toList_ofList]
    exact ⟨p.1, hsifts.sound p hp⟩
  have listed (hplain : IsPlain receiver text) {ahead : List Char} {n : String}
      (hfree : FreeAt receiver [] (marked spans) ahead n.toList) : (ahead, n.toList) ∈ found :=
    hsifts.complete hplain hfree
  refine ⟨spans, hscans, sound, hnames ▸ nodup_firstOccurrences _, fun hplain => ⟨fun n => ?_, ?_⟩⟩
  · refine ⟨sound n, fun ⟨ahead, hfree⟩ => ?_⟩
    rw [hnames, mem_firstOccurrences, List.mem_map]
    exact ⟨_, listed hplain hfree, String.ofList_toList⟩
  · rw [hnames]
    refine (pairwise_firstOccurrences _).imp fun {n m} ⟨front, rest, hitems, hnew, hne⟩ => ?_
    obtain ⟨first, later, rfl, rfl, hlater⟩ := List.map_eq_append_iff.1 hitems
    obtain ⟨p, last, rfl, rfl, rfl⟩ := List.map_eq_cons_iff.1 hlater
    rw [String.toList_ofList]
    refine ⟨p.1, hsifts.sound p (by simp), fun other hfree => ?_⟩
    rcases List.mem_append.1 (listed hplain hfree) with hmem | hmem
    · refine absurd ?_ hnew
      exact List.mem_map.2 ⟨_, hmem, String.ofList_toList⟩
    · rcases List.mem_cons.1 hmem with rfl | hmem
      · exact absurd String.ofList_toList.symm hne
      · exact (List.pairwise_cons.1 (List.pairwise_append.1 hsifts.ordered).2.1).1 _ hmem

/-- Literals, attributes, labels, capitalized words and the receiver are not free. -/
theorem freeNames_freeAt_mixed :
    let text := ['\'', 'a', '\'', 'b', '.', 'c', '+', 's', '+', 'd', ':', 'E', ' ', 'b', ' ', 'f']
    ∃ spans, Scans none text spans ∧
      (∀ n : String, n ∈ ["b", "f"] ↔ ∃ ahead, FreeAt ['s'] [] (marked spans) ahead n.toList) ∧
      ["b", "f"].Pairwise fun n m => ∃ ahead, FreeAt ['s'] [] (marked spans) ahead n.toList ∧
        ∀ other, FreeAt ['s'] [] (marked spans) other m.toList → ahead.length < other.length := by
  intro text
  have hnames : freeNames ['s'] text = ["b", "f"] := by decide +kernel
  obtain ⟨spans, hscans, -, -, hfree⟩ :=
    freeNames_freeAt (show isIdentifier ['s'] = true by decide) text
  have hword : isWordChar 's' = true := by decide
  obtain ⟨hiff, hordered⟩ := hfree (.inl (List.forall_mem_singleton.2 hword))
  rw [hnames] at hordered
  exact ⟨spans, hscans, hnames ▸ hiff, hordered⟩

set_option maxRecDepth 8000 in
theorem middleDot : isIdentifierRest '·' = true ∧ isWordChar '·' = false := by
  have avoids {lines : List String}
      (h : ∀ line ∈ lines, lineHolds (fun r => !(r.1 ≤ 0xB7 && 0xB7 ≤ r.2)) line.toList = true) :
      (RangeTable.ofLines lines).contains 0xB7 = false :=
    contains_ofLines_eq_false h fun r hr => by rwa [Bool.not_eq_true'] at hr
  have hletter : letterTable.contains 0xB7 = false := by
    refine avoids ?_
    simp only [List.forall_mem_cons, List.not_mem_nil, false_imp_iff, implies_true, and_true]
    and_intros <;> exact lineHolds_of_eq rfl (by decide +kernel)
  have hnumeric : numericTable.contains 0xB7 = false := by
    refine avoids ?_
    simp only [List.forall_mem_cons, List.not_mem_nil, false_imp_iff, implies_true, and_true]
    and_intros <;> exact lineHolds_of_eq rfl (by decide +kernel)
  have hrest : identifierRestTable.contains 0xB7 = true := by
    rw [identifierRestTable, RangeTable.contains, RangeTable.ofLines, List.any_toArray,
      List.any_flatMap, List.any_cons]
    exact Bool.or_eq_true_iff.2 (.inl (by decide +kernel))
  have hwide : '·'.toNat = 0xB7 := rfl
  constructor
  · simp [isIdentifierRest, hwide, hrest]
  · simp [isWordChar, isLetter, isNumeric, hwide, hletter, hnumeric]

/-- A receiver that is no word hides the words in it. -/
theorem receiver_hides_words :
    isIdentifier ['a', '·', 'b'] = true ∧ freeNames ['a', '·', 'b'] ['a', '·', 'b'] = [] ∧
      ∃ spans, Scans none ['a', '·', 'b'] spans ∧
        FreeAt ['a', '·', 'b'] [] (marked spans) [] ['a'] ∧
        FreeAt ['a', '·', 'b'] [] (marked spans) ['a', '·'] ['b'] := by
  obtain ⟨hrest, hdot⟩ := middleDot
  have ha : isWordChar 'a' = true := by decide
  have hb : isWordChar 'b' = true := by decide
  have hscans : Scans none ['a', '·', 'b'] [.outside 'a', .outside '·', .outside 'b'] :=
    .outside rfl (.outside rfl (.outside rfl (.done _)))
  have hany : (some '·').any isWordChar = false := by rw [Option.any_some, hdot]
  have hfirst : IsFreeWord ['a', '·', 'b'] none ['a'] (some '·') :=
    ⟨by simp [ha], ⟨'a', rfl, by decide⟩, by decide +kernel, by decide, rfl, hany, by decide,
      by decide⟩
  have hlast : IsFreeWord ['a', '·', 'b'] (some '·') ['b'] none :=
    ⟨by simp [hb], ⟨'b', rfl, by decide⟩, by decide +kernel, by decide, hany, rfl, by decide,
      by decide⟩
  refine ⟨?_, ?_, _, hscans, ⟨[], [('·', true), ('b', true)], rfl, rfl, hfirst⟩,
    ⟨[('a', true), ('·', true)], [], rfl, rfl, hlast⟩⟩
  · have hstart : isIdentifierStart 'a' = true ∧ isIdentifierRest 'b' = true := by decide
    simp [isIdentifier, hstart, hrest]
  · have hspan : excluded? ['a', '·', 'b'] none ['a', '·', 'b'] = some 3 := by
      have hliteral : literal? none ['a', '·', 'b'] = none := rfl
      have hcapital : capitalOrAttribute? none ['a', '·', 'b'] = none := rfl
      have hlabel : label? none ['a', '·', 'b'] = none := by simp [label?, hdot]
      have hreceiver : receiver? ['a', '·', 'b'] none ['a', '·', 'b'] = some 3 := by
        simp [receiver?, isBoundary, ha, hb]
      simp [excluded?, hliteral, hcapital, hlabel, hreceiver]
    rw [freeNames, blankMatches, hspan]
    rfl

end LambdaText.Source
