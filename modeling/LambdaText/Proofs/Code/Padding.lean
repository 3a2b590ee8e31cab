import LambdaText.Proofs.Code.Steps
import LambdaText.Proofs.Text.Lines

/-!
# Texts with other margins

Two texts that differ in the margins of their later lines only. The tokens at their front are the
same, or quoted texts that differ in the same way.
-/

namespace LambdaText.Code

open LambdaText.Text

/-- The second text is the first one with other margins behind its line breaks, and maybe blanks
behind its end. A margin that is the same stands in a line of blanks. -/
inductive Repads : List Char → List Char → Prop
  | done {gap : List Char} (hgap : ∀ c ∈ gap, isBlank c = true ∧ isLineBreak c = false) :
      Repads [] gap
  | char {c : Char} {text padded : List Char} (hc : isLineBreak c = false)
      (h : Repads text padded) : Repads (c :: text) (c :: padded)
  | line {b : Char} {old new text padded : List Char} (hb : isLineBreak b = true)
      (hold : ∀ c ∈ old, isMarginChar c = true) (hnew : ∀ c ∈ new, isMarginChar c = true)
      (hne : old ≠ new ∨ (firstLine text).all isBlank = true)
      (h : Repads text padded) : Repads (b :: (old ++ text)) (b :: (new ++ padded))

theorem Repads.similar {text padded : List Char} (h : Repads text padded) (rest : List Char) :
    Similar (padded ++ ['\n']) (text ++ '\n' :: rest) := by
  induction h with
  | @done gap hgap =>
    cases gap with
    | nil => exact .blank rfl (.inl rfl)
    | cons c gap => exact .blank (hgap c (by simp)).1 (.inr rfl)
  | @char c text padded hc h ih => exact .cons c ih
  | line hb _ _ _ _ _ => exact .blank (isBlank_of_isLineBreak hb) (.inl rfl)

/-- Characters in front that are no blanks stand in both texts. -/
theorem Repads.front {text padded rest : List Char} (h : Repads text padded) (taken : List Char)
    (htaken : ∀ c ∈ taken, isBlank c = false) (heq : padded ++ ['\n'] = taken ++ rest) :
    ∃ text' padded', text = taken ++ text' ∧ padded = taken ++ padded' ∧
      rest = padded' ++ ['\n'] ∧ Repads text' padded' := by
  induction taken generalizing text padded with
  | nil => exact ⟨text, padded, rfl, rfl, heq.symm, h⟩
  | cons c taken ih =>
    have hc := htaken c (by simp)
    have hblank : ∀ d, isBlank d = true → d ≠ c := by
      rintro d hd rfl
      rw [hc] at hd
      cases hd
    cases h with
    | done hgap =>
      cases padded with
      | nil => exact absurd (List.cons.inj heq).1 (hblank '\n' rfl)
      | cons d gap => exact absurd (List.cons.inj heq).1 (hblank d (hgap d (by simp)).1)
    | char hd h =>
      obtain ⟨rfl, hrest⟩ := List.cons.inj heq
      obtain ⟨text', padded', rfl, rfl, hrest', h'⟩ :=
        ih h (fun d hd => htaken d (by simp [hd])) hrest
      exact ⟨text', padded', rfl, rfl, hrest', h'⟩
    | line hb => exact absurd (List.cons.inj heq).1 (hblank _ (isBlank_of_isLineBreak hb))

/-! ### Quoted texts -/

theorem eq_of_mem_closing {q c : Char} {triple : Bool} (h : c ∈ closing q triple) : c = q := by
  cases triple <;> simpa [closing] using h

theorem noBlank_closing {q : Char} (hq : isQuoteChar q = true) (triple : Bool) :
    ∀ c ∈ closing q triple, isBlank c = false := by
  intro c hc
  rw [eq_of_mem_closing hc]
  exact avoidsBlanks_isQuoteChar.not_blank hq

theorem Closes.mem_quote {q : Char} {triple : Bool} {text body rest : List Char}
    (h : Closes q triple text body rest) : q ∈ text := by
  rw [h.eq_append]
  cases triple <;> simp [closing]

theorem Closes.not_blank {q : Char} (hq : isQuoteChar q = true) {triple : Bool}
    {text body rest : List Char} (h : Closes q triple text body rest)
    (htext : ∀ c ∈ text, isBlank c = true) : False := by
  have := htext q h.mem_quote
  rw [avoidsBlanks_isQuoteChar.not_blank hq] at this
  cases this

/-- A margin may be put in front of what is quoted. -/
theorem Closes.margin {q : Char} (hq : isQuoteChar q = true) {triple : Bool}
    {text body rest : List Char} (h : Closes q triple text body rest) {front : List Char}
    (hfront : ∀ c ∈ front, isMarginChar c = true) :
    Closes q triple (front ++ text) (front ++ body) rest := by
  induction front with
  | nil => exact h
  | cons c front ih =>
    have hc := isMarginChar_iff.1 (hfront c (by simp))
    refine .char ?_ ?_ ?_ (ih fun d hd => hfront d (by simp [hd]))
    · rintro rfl
      simp at hc
    · intro hin
      have hcq : q = c := by
        cases triple <;> exact (List.cons_prefix_cons.1 hin).1
      rw [← hcq] at hc
      rcases hc with rfl | rfl <;> cases hq
    · rintro - rfl
      simp at hc

theorem blank_firstLine_quote {q : Char} (hq : isQuoteChar q = true) {body : List Char}
    (rest : List Char) (h : (firstLine (body ++ q :: rest)).all isBlank = true) :
    (firstLine (body ++ [q])).all isBlank = true := by
  have hblank := avoidsBlanks_isQuoteChar.not_blank hq
  induction body with
  | nil =>
    rw [List.nil_append, firstLine_cons (isLineBreak_eq_false_of_not_blank hblank), List.all_cons,
      hblank] at h
    cases h
  | cons c body ih =>
    cases hc : isLineBreak c with
    | true => rw [List.cons_append, firstLine_break hc, List.all_nil]
    | false =>
      rw [List.cons_append, firstLine_cons hc, List.all_cons, Bool.and_eq_true] at h ⊢
      exact ⟨h.1, ih h.2⟩

/-- What is quoted in front of a break in a line, with another margin behind the break. -/
theorem Repads.line_quote {q : Char} (hq : isQuoteChar q = true) {triple : Bool}
    {b : Char} {old new text body body' rest tail : List Char}
    (hb : isLineBreak b = true) (hold : ∀ c ∈ old, isMarginChar c = true)
    (hnew : ∀ c ∈ new, isMarginChar c = true)
    (hne : old ≠ new ∨ (firstLine text).all isBlank = true)
    (hcloses : Closes q triple (text ++ '\n' :: tail) body rest)
    (h : Repads (body ++ [q]) (body' ++ [q])) :
    Repads (b :: (old ++ body) ++ [q]) (b :: (new ++ body') ++ [q]) := by
  rw [List.cons_append, List.cons_append, List.append_assoc, List.append_assoc]
  refine .line hb hold hnew (hne.imp_right fun hblank => ?_) h
  rw [← firstLine_append_break (b := '\n') rfl text tail, hcloses.eq_append] at hblank
  refine blank_firstLine_quote hq ((closing q triple).tail ++ rest) ?_
  cases triple <;> exact hblank

/-- A text behind opening quotes is closed, and what is quoted in it differs from `body'` in margins
only. -/
def ClosesAlike (q : Char) (triple : Bool) (text tail body' rest : List Char) : Prop :=
  ∃ body text' padded', rest = padded' ++ ['\n'] ∧ Repads text' padded' ∧
    Closes q triple (text ++ '\n' :: tail) body (text' ++ '\n' :: tail) ∧
    Repads (body ++ [q]) (body' ++ [q])

section ClosesAlike

variable {q : Char} {triple : Bool} {text tail body' rest : List Char}

theorem ClosesAlike.char {c : Char} (hc : isLineBreak c = false) (hslash : c ≠ '\\')
    (hopen : ¬ closing q triple <+: c :: (text ++ '\n' :: tail))
    (h : ClosesAlike q triple text tail body' rest) :
    ClosesAlike q triple (c :: text) tail (c :: body') rest := by
  obtain ⟨body, text', padded', hrest, h', hcloses, hbody⟩ := h
  refine ⟨c :: body, text', padded', hrest, h', .char hslash hopen ?_ hcloses, .char hc hbody⟩
  rintro - rfl
  cases hc

theorem ClosesAlike.escape {c : Char} (hc : isLineBreak c = false)
    (h : ClosesAlike q triple text tail body' rest) :
    ClosesAlike q triple ('\\' :: c :: text) tail ('\\' :: c :: body') rest := by
  obtain ⟨body, text', padded', hrest, h', hcloses, hbody⟩ := h
  exact ⟨'\\' :: c :: body, text', padded', hrest, h', .escape c hcloses,
    .char rfl (.char hc hbody)⟩

variable {b : Char} {old new : List Char} (hq : isQuoteChar q = true)
  (hb : isLineBreak b = true) (hold : ∀ c ∈ old, isMarginChar c = true)
  (hnew : ∀ c ∈ new, isMarginChar c = true)
  (hne : old ≠ new ∨ (firstLine text).all isBlank = true)
include hq hb hold hnew hne

theorem ClosesAlike.line (hline : triple = false → b ≠ '\n')
    (h : ClosesAlike q triple text tail body' rest) :
    ClosesAlike q triple (b :: (old ++ text)) tail (b :: (new ++ body')) rest := by
  obtain ⟨body, text', padded', hrest, h', hcloses, hbody⟩ := h
  have hblank := isBlank_of_isLineBreak hb
  refine ⟨b :: (old ++ body), text', padded', hrest, h', ?_,
    .line_quote hq hb hold hnew hne hcloses hbody⟩
  rw [List.cons_append, List.append_assoc]
  refine .char ?_ ?_ hline (hcloses.margin hq hold)
  · rintro rfl
    cases hb
  · intro hin
    have hqb : q = b := by
      cases triple <;> exact (List.cons_prefix_cons.1 hin).1
    rw [← hqb, avoidsBlanks_isQuoteChar.not_blank hq] at hblank
    cases hblank

theorem ClosesAlike.escape_line (h : ClosesAlike q triple text tail body' rest) :
    ClosesAlike q triple ('\\' :: b :: (old ++ text)) tail ('\\' :: b :: (new ++ body')) rest := by
  obtain ⟨body, text', padded', hrest, h', hcloses, hbody⟩ := h
  refine ⟨'\\' :: b :: (old ++ body), text', padded', hrest, h', ?_,
    .char rfl (.line_quote hq hb hold hnew hne hcloses hbody)⟩
  rw [List.cons_append, List.cons_append, List.append_assoc]
  exact .escape b (hcloses.margin hq hold)

end ClosesAlike

theorem not_closes_of_gap {q : Char} (hq : isQuoteChar q = true) {triple : Bool}
    {all body rest gap : List Char} {c : Char} (h : Closes q triple all body rest)
    (hgap : ∀ c ∈ gap, isBlank c = true ∧ isLineBreak c = false)
    (heq : c :: all = gap ++ ['\n']) : False := by
  refine h.not_blank hq fun d hd => ?_
  have hmem : d ∈ gap ++ ['\n'] := heq ▸ List.mem_cons_of_mem c hd
  rcases List.mem_append.1 hmem with hd | hd
  · exact (hgap d hd).1
  · rw [List.mem_singleton.1 hd]
    rfl

/-- A margin in front of content is empty. -/
theorem eq_nil_of_margin {margin rest rest' : List Char} {c : Char} (hc : isBlank c = false)
    (hmargin : ∀ d ∈ margin, isMarginChar d = true) (heq : c :: rest = margin ++ rest') :
    margin = [] := by
  cases margin with
  | nil => rfl
  | cons d margin =>
    have hblank := isBlank_of_isMarginChar (hmargin d (by simp))
    rw [← (List.cons.inj heq).1, hc] at hblank
    cases hblank

/-- What closes a quoted text in a text with other margins, closes one in the text itself. -/
theorem Repads.closes {q : Char} (hq : isQuoteChar q = true) {triple : Bool}
    {all body' rest : List Char} (h : Closes q triple all body' rest) (tail : List Char) :
    ∀ (new : List Char) {text padded : List Char}, (∀ c ∈ new, isMarginChar c = true) →
      all = new ++ (padded ++ ['\n']) → Repads text padded →
      ∃ body'', body' = new ++ body'' ∧ ClosesAlike q triple text tail body'' rest := by
  have hquote := avoidsBlanks_isQuoteChar.not_blank hq
  induction h with
  | done rest =>
    intro new text padded hnew heq hpads
    obtain rfl : new = [] := by
      cases triple <;> exact eq_nil_of_margin hquote hnew heq
    obtain ⟨text', padded', rfl, rfl, rfl, h'⟩ :=
      hpads.front _ (noBlank_closing hq triple) heq.symm
    refine ⟨[], rfl, [], text', padded', rfl, h', ?_, .char ?_ (.done (by simp))⟩
    · rw [List.append_assoc]
      exact .done _
    · exact isLineBreak_eq_false_of_not_blank hquote
  | @escape c all body' rest hcloses ih =>
    intro new text padded hnew heq hpads
    obtain rfl := eq_nil_of_margin rfl hnew heq
    obtain ⟨text, padded, rfl, rfl, hrest, h⟩ :=
      hpads.front ['\\'] (by simp; rfl) heq.symm
    refine ⟨_, rfl, ?_⟩
    cases h with
    | done hgap => exact (not_closes_of_gap hq hcloses hgap hrest).elim
    | char hc h =>
      obtain ⟨rfl, hall⟩ := List.cons.inj hrest
      obtain ⟨_, rfl, halike⟩ := ih [] (by simp) hall h
      exact halike.escape hc
    | line hb hold hnew' hne h =>
      simp only [List.cons_append, List.cons.injEq, List.append_assoc] at hrest
      obtain ⟨rfl, hall⟩ := hrest
      obtain ⟨_, rfl, halike⟩ := ih _ hnew' hall h
      exact halike.escape_line hq hb hold hnew' hne
  | @char c all body' rest hslash hopen hline hcloses ih =>
    intro new text padded hnew heq hpads
    cases new with
    | cons d new =>
      obtain ⟨rfl, hall⟩ := List.cons.inj heq
      obtain ⟨body'', rfl, halike⟩ := ih new (fun e he => hnew e (by simp [he])) hall hpads
      exact ⟨body'', rfl, halike⟩
    | nil =>
      refine ⟨_, rfl, ?_⟩
      have hsim := hpads.similar tail
      cases hpads with
      | done hgap => exact (not_closes_of_gap hq hcloses hgap heq).elim
      | char hc h =>
        obtain ⟨rfl, hall⟩ := List.cons.inj heq
        obtain ⟨_, rfl, halike⟩ := ih [] (by simp) hall h
        refine halike.char hc hslash fun hin => hopen ?_
        rw [← List.isPrefixOf_iff_prefix] at hin ⊢
        rw [hall]
        exact (hsim.isPrefixOf (noBlank_closing hq triple)).trans hin
      | line hb hold hnew' hne h =>
        simp only [List.nil_append, List.cons_append, List.cons.injEq, List.append_assoc] at heq
        obtain ⟨rfl, hall⟩ := heq
        obtain ⟨_, rfl, halike⟩ := ih _ hnew' hall h
        exact halike.line hq hb hold hnew' hne hline

/-! ### Tokens -/

/-- A token, and the same token of a text with other margins: what is quoted in it may have other
margins too. -/
inductive SameToken : Token → Token → Prop
  | same {t : Token} (h : ∀ mark body, t ≠ .quoted mark body) : SameToken t t
  | quoted (mark : List Char) {body body' : List Char} {q : Char} (hq : isQuoteChar q = true)
      (h : Repads (body ++ [q]) (body' ++ [q])) : SameToken (.quoted mark body) (.quoted mark body')

theorem ascii_of_quoteMarks : ∀ m ∈ quoteMarks, ∀ c ∈ m.toList, 'a' ≤ c ∧ c ≤ 'z' := by
  have hall : (quoteMarks.all fun m => m.toList.all fun c => 'a'.val ≤ c.val && c.val ≤ 'z'.val) =
      true := by
    decide +kernel
  intro m hm c hc
  exact Bool.and_eq_true_iff.1 (List.all_eq_true.1 (List.all_eq_true.1 hall m hm) c hc) |>.imp
    of_decide_eq_true of_decide_eq_true

/-- No character between two visible ASCII characters is a blank. -/
theorem not_blank_of_between {low high c : Char} (hlow : 0x20 < low.toNat)
    (hhigh : high.toNat < 0x80) (h : low ≤ c ∧ c ≤ high) : isBlank c = false := by
  refine (avoidsBlanks_of_range fun c hc => ?_ :
    AvoidsBlanks fun c => low ≤ c ∧ c ≤ high).not_blank (by simpa)
  rw [decide_eq_true_eq] at hc
  exact ⟨Nat.lt_of_lt_of_le hlow (toNat_le_of_le hc.1),
    Nat.lt_of_le_of_lt (toNat_le_of_le hc.2) hhigh⟩

theorem noBlank_of_isMark {run : List Char} (h : IsMark run) : ∀ c ∈ run, isBlank c = false := by
  intro c hc
  rcases h.nil_or_mark with rfl | ⟨-, hmark⟩
  · cases hc
  rw [List.contains_iff_mem] at hmark
  have hletter := ascii_of_quoteMarks _ hmark c.toLower (by
    rw [String.toList_ofList]
    exact List.mem_map_of_mem hc)
  by_cases hupper : 'A' ≤ c ∧ c ≤ 'Z'
  · exact not_blank_of_between (by decide) (by decide) hupper
  · rw [show c.toLower = c from dif_neg hupper] at hletter
    exact not_blank_of_between (by decide) (by decide) hletter

theorem noBlank_opening {run : List Char} (hrun : IsMark run) {q : Char}
    (hq : isQuoteChar q = true) (triple : Bool) :
    ∀ c ∈ run ++ closing q triple, isBlank c = false := by
  simp only [List.mem_append]
  rintro c (hc | hc)
  · exact noBlank_of_isMark hrun c hc
  · exact noBlank_closing hq triple c hc

/-- The token at the front of a text with other margins is the same but for margins. -/
theorem Repads.token {text padded rest : List Char} {t' : Token} (h : Repads text padded)
    (ht : token? (padded ++ ['\n']) = some (t', rest)) (tail : List Char) :
    ∃ t text' padded', rest = padded' ++ ['\n'] ∧ Repads text' padded' ∧
      token? (text ++ '\n' :: tail) = some (t, text' ++ '\n' :: tail) ∧ SameToken t t' := by
  rcases token?_cases ht with ⟨⟨taken, htext, htaken, hother⟩, -, hplain⟩ |
    ⟨run, q, triple, after, body', hrun, hq, htext, hopen, hcloses, rfl⟩
  · obtain ⟨text', padded', rfl, rfl, rfl, h'⟩ := h.front taken htaken htext
    refine ⟨t', text', padded', rfl, h', ?_, .same hplain⟩
    rw [List.append_assoc]
    exact hother _ (h'.similar tail)
  · rw [← List.append_assoc] at htext
    obtain ⟨text', padded', rfl, rfl, rfl, h'⟩ :=
      h.front _ (noBlank_opening hrun hq triple) htext
    obtain ⟨_, rfl, body, text, padded, rfl, hpads, hclose, hbody⟩ :=
      Repads.closes hq hcloses tail [] (by simp) rfl h'
    refine ⟨.quoted (run.map Char.toLower) body, text, padded, rfl, hpads, ?_, .quoted _ hq hbody⟩
    rw [List.append_assoc, List.append_assoc]
    refine token?_quoted hrun hq (fun htriple hin => hopen htriple ?_) hclose
    rw [← List.isPrefixOf_iff_prefix] at hin ⊢
    refine ((h'.similar tail).isPrefixOf ?_).trans hin
    simp [avoidsBlanks_isQuoteChar.not_blank hq]

/-! ### Where margins show -/

theorem Repads.of_no_break {text padded : List Char} (h : Repads text padded)
    (htext : ∀ c ∈ text, isLineBreak c = false) :
    ∃ gap, padded = text ++ gap ∧ ∀ c ∈ gap, isBlank c = true := by
  induction h with
  | @done gap hgap => exact ⟨gap, rfl, fun c hc => (hgap c hc).1⟩
  | char _ _ ih =>
    obtain ⟨gap, rfl, hgap⟩ := ih fun d hd => htext d (by simp [hd])
    exact ⟨gap, rfl, hgap⟩
  | @line b _ _ _ _ hb =>
    rw [htext b (by simp)] at hb
    cases hb

theorem Repads.last_line {text padded : List Char} (h : Repads text padded)
    (htext : ∃ c ∈ text, isLineBreak c = true) :
    ∃ before before' b old new line padded', isLineBreak b = true ∧
      text = before ++ b :: (old ++ line) ∧ padded = before' ++ b :: (new ++ padded') ∧
      (∀ c ∈ old, isMarginChar c = true) ∧ (∀ c ∈ new, isMarginChar c = true) ∧
      (old ≠ new ∨ line.all isBlank = true) ∧ (∀ c ∈ line, isLineBreak c = false) ∧
      Repads line padded' := by
  induction h with
  | done => simp at htext
  | @char c text padded hc h ih =>
    obtain ⟨before, before', b, old, new, line, padded', hb, rfl, rfl, hold, hnew, hne, hline,
      h'⟩ := ih (by simpa [hc] using htext)
    exact ⟨c :: before, c :: before', b, old, new, line, padded', hb, rfl, rfl, hold, hnew, hne,
      hline, h'⟩
  | @line b old new text padded hb hold hnew hne h ih =>
    by_cases hmore : ∃ c ∈ text, isLineBreak c = true
    · obtain ⟨before, before', b', old', new', line, padded', hb', rfl, rfl, hold', hnew', hne',
        hline, h'⟩ := ih hmore
      exact ⟨b :: (old ++ before), b :: (new ++ before'), b', old', new', line, padded', hb',
        by simp, by simp, hold', hnew', hne', hline, h'⟩
    · have hline : ∀ c ∈ text, isLineBreak c = false := by simpa using hmore
      have hall : firstLine text = text :=
        List.takeWhile_eq_self_iff.2 fun c hc => by simp [hline c hc]
      rw [hall] at hne
      exact ⟨[], [], b, old, new, text, padded, hb, rfl, rfl, hold, hnew, hne, hline, h⟩

/-- Two texts that are the same have the same last line. -/
theorem last_line_unique {before before' line line' : List Char} {b b' : Char}
    (hb : isLineBreak b = true) (hb' : isLineBreak b' = true)
    (hline : ∀ c ∈ line, isLineBreak c = false) (hline' : ∀ c ∈ line', isLineBreak c = false)
    (h : before ++ b :: line = before' ++ b' :: line') : line = line' := by
  have hsuffix : ∀ {front : List Char} {c d : Char} {l l' : List Char}, isLineBreak d = true →
      (∀ e ∈ l, isLineBreak e = false) → c :: l = front ++ d :: l' → l = l' := by
    intro front c d l l' hd hl heq
    cases front with
    | nil => exact (List.cons.inj heq).2
    | cons e front =>
      obtain ⟨-, rfl⟩ := List.cons.inj heq
      rw [hl d (by simp)] at hd
      cases hd
  rcases List.append_eq_append_iff.1 h with ⟨front, -, heq⟩ | ⟨front, -, heq⟩
  · exact hsuffix hb' hline heq
  · exact (hsuffix hb hline' heq).symm

/-- What is quoted keeps its text exactly if it has no line break. -/
theorem Repads.eq_iff {body body' : List Char} {q : Char} (hq : isBlank q = false)
    (h : Repads (body ++ [q]) (body' ++ [q])) :
    body' = body ↔ ∀ c ∈ body, isLineBreak c = false := by
  have hmem : ∀ {c : Char}, isBlank c = true → c ≠ q := by
    rintro c hc rfl
    rw [hq] at hc
    cases hc
  have htrail : ∀ (l gap : List Char), (∀ c ∈ gap, isBlank c = true) →
      body' ++ [q] = l ++ gap → gap = [] := by
    intro l gap hgap heq
    rcases List.eq_nil_or_concat gap with rfl | ⟨gap, c, rfl⟩
    · rfl
    · rw [List.concat_eq_append, ← List.append_assoc] at heq
      have hc : q = c := by simpa using (List.append_inj' heq rfl).2
      exact absurd hc.symm (hmem (hgap c (by simp)))
  constructor
  · rintro rfl
    by_contra hbreak
    obtain ⟨before, before', b, old, new, line, padded', hb, hbody, hbody', hold, hnew, hne, hline,
      h'⟩ := h.last_line (by
        simp only [not_forall, Bool.not_eq_false] at hbreak
        obtain ⟨c, hc, hcb⟩ := hbreak
        exact ⟨c, by simp [hc], hcb⟩)
    obtain ⟨gap, rfl, hgap⟩ := h'.of_no_break hline
    obtain rfl := htrail (before' ++ b :: (new ++ line)) gap hgap (by simpa using hbody')
    have hmargin : ∀ {l : List Char}, (∀ c ∈ l, isMarginChar c = true) →
        ∀ c ∈ l ++ line, isLineBreak c = false := by
      intro l hl c hc
      rcases List.mem_append.1 hc with hc | hc
      · rcases isMarginChar_iff.1 (hl c hc) with rfl | rfl <;> rfl
      · exact hline c hc
    have hlast := last_line_unique hb hb (hmargin hold) (hmargin hnew)
      (hbody.symm.trans (by simpa using hbody'))
    rcases hne with hne | hblank
    · exact hne (List.append_cancel_right hlast)
    · have hnil := htrail before (b :: (old ++ line)) ?_ hbody
      · cases hnil
      · simp only [List.mem_cons, List.mem_append]
        rintro c (rfl | hc | hc)
        · exact isBlank_of_isLineBreak hb
        · exact isBlank_of_isMarginChar (hold c hc)
        · exact List.all_eq_true.1 hblank c hc
  · intro hbreak
    have hq' : isLineBreak q = false := isLineBreak_eq_false_of_not_blank hq
    obtain ⟨gap, heq, hgap⟩ := h.of_no_break (by
      intro c hc
      rcases List.mem_append.1 hc with hc | hc
      · exact hbreak c hc
      · rw [List.mem_singleton.1 hc]
        exact hq')
    obtain rfl := htrail _ gap hgap heq
    simpa using heq

/-- Whether a token is a quoted text with a line break in it. -/
def Token.holdsBreak : Token → Bool
  | .quoted _ body => body.any isLineBreak
  | _ => false

/-- Exactly a quoted text with a line break is not the same where margins differ. -/
theorem SameToken.eq_iff {t t' : Token} (h : SameToken t t') : t' = t ↔ t.holdsBreak = false := by
  cases h with
  | same hplain =>
    refine iff_of_true rfl ?_
    cases t with
    | quoted mark body => exact absurd rfl (hplain mark body)
    | _ => rfl
  | quoted mark hq h =>
    rw [Token.quoted.injEq, eq_self, true_and, h.eq_iff (avoidsBlanks_isQuoteChar.not_blank hq)]
    simp [Token.holdsBreak]

end LambdaText.Code
