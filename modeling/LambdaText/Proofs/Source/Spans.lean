import LambdaText.Proofs.Source.Arrows
import LambdaText.Source.FreeNames

/-!
# Literals as spans

The scanner takes a text apart into quoted literals and the characters outside of them. Two texts
have the same outline if they differ in nothing but what stands between the quotes of literals.
-/

namespace LambdaText.Source

open LambdaText.Text

def isQuote (c : Char) : Bool := c == '\'' || c == '"'

/-- A part of a text: a character outside of literals, or a literal. -/
inductive Span where
  | outside (c : Char)
  | literal (marks : List Char) (quote : Char) (content : List Char)
  deriving DecidableEq

namespace Span

/-- The text of a span. -/
def chars : Span → List Char
  | outside c => [c]
  | literal marks q content => marks ++ q :: (content ++ [q])

/-- A span without what stands between its quotes. -/
def outline : Span → Span
  | outside c => outside c
  | literal marks q _ => literal marks q []

/-- What stands between the quotes of a span, if it has some. -/
def content? : Span → Option (List Char)
  | outside _ => none
  | literal _ _ content => some content

def blanked : Span → Char
  | outside c => c
  | literal _ _ _ => ' '

end Span

/-- How the scanner takes a text apart, given the character before. -/
inductive Scans : Option Char → List Char → List Span → Prop
  | done (before : Option Char) : Scans before [] []
  | outside {before : Option Char} {c : Char} {text : List Char} {spans : List Span}
      (hnone : literal? before (c :: text) = none) (h : Scans (some c) text spans) :
      Scans before (c :: text) (.outside c :: spans)
  | literal {before : Option Char} {marks content text : List Char} {q : Char}
      {spans : List Span} (hmarks : ∀ c ∈ marks, isLiteralMark c = true)
      (hquote : isQuote q = true)
      (hliteral : literal? before (marks ++ q :: (content ++ q :: text)) =
        some (marks.length + content.length + 2))
      (h : Scans (some q) text spans) :
      Scans before (marks ++ q :: (content ++ q :: text)) (.literal marks q content :: spans)

/-! ### Every text is taken apart -/

theorem closing?_eq_some {q : Char} {text : List Char} {n : Nat} (h : closing? q text = some n) :
    ∃ content rest, text = content ++ q :: rest ∧ n = content.length + 1 := by
  fun_induction closing? q text generalizing n with
  | case1 => cases h
  | case2 => cases h
  | case3 => cases h
  | case4 c rest hc ih =>
    obtain ⟨k, hk, rfl⟩ := Option.map_eq_some_iff.1 h
    obtain ⟨content, after, rfl, rfl⟩ := ih hk
    exact ⟨'\\' :: c :: content, after, rfl, rfl⟩
  | case5 rest =>
    cases h
    exact ⟨[], rest, rfl, rfl⟩
  | case6 => cases h
  | case7 c rest _ _ _ _ ih =>
    obtain ⟨k, hk, rfl⟩ := Option.map_eq_some_iff.1 h
    obtain ⟨content, after, rfl, rfl⟩ := ih hk
    exact ⟨c :: content, after, rfl, rfl⟩

theorem bareLiteral?_eq_some {text : List Char} {n : Nat} (h : bareLiteral? text = some n) :
    ∃ q content rest, text = q :: (content ++ q :: rest) ∧ isQuote q = true ∧
      n = content.length + 2 := by
  cases text with
  | nil => cases h
  | cons q text =>
    rw [bareLiteral?] at h
    split at h
    · next hq =>
      obtain ⟨k, hk, rfl⟩ := Option.map_eq_some_iff.1 h
      obtain ⟨content, rest, rfl, rfl⟩ := closing?_eq_some hk
      exact ⟨q, content, rest, rfl, by simpa [isQuote] using hq, rfl⟩
    · cases h

theorem literal?_eq_some {before : Option Char} {text : List Char} {n : Nat}
    (h : literal? before text = some n) :
    ∃ marks q content rest, text = marks ++ q :: (content ++ q :: rest) ∧
      (∀ c ∈ marks, isLiteralMark c = true) ∧ isQuote q = true ∧
      n = marks.length + content.length + 2 := by
  have bare : ∀ {rest : List Char} {k : Nat}, bareLiteral? rest = some k →
      ∃ q content after, rest = q :: (content ++ q :: after) ∧ isQuote q = true ∧
        k = content.length + 2 := bareLiteral?_eq_some
  unfold literal? at h
  split at h
  · next a b rest =>
    split at h
    · next ha =>
      rw [Bool.and_eq_true] at ha
      split at h
      · next hb =>
        obtain ⟨k, hk, rfl⟩ := Option.map_eq_some_iff.1 h
        obtain ⟨q, content, after, rfl, hq, rfl⟩ := bare hk
        refine ⟨[a, b], q, content, after, rfl, by simp [ha.1, hb], hq, ?_⟩
        simp only [List.length_cons, List.length_nil]
        omega
      · obtain ⟨k, hk, rfl⟩ := Option.map_eq_some_iff.1 h
        obtain ⟨q, content, after, hrest, hq, rfl⟩ := bare hk
        refine ⟨[a], q, content, after, by rw [hrest]; rfl, by simp [ha.1], hq, ?_⟩
        simp only [List.length_cons, List.length_nil]
        omega
    · obtain ⟨q, content, after, hrest, hq, rfl⟩ := bare h
      exact ⟨[], q, content, after, hrest, by simp, hq, by simp⟩
  · obtain ⟨q, content, after, hrest, hq, rfl⟩ := bare h
    exact ⟨[], q, content, after, hrest, by simp, hq, by simp⟩

/-- Every text is taken apart in some way. -/
theorem exists_scans (before : Option Char) (text : List Char) :
    ∃ spans, Scans before text spans := by
  induction hlength : text.length using Nat.strong_induction_on generalizing before text with
  | _ size ih =>
    cases text with
    | nil => exact ⟨[], .done before⟩
    | cons c text =>
      subst hlength
      cases hliteral : literal? before (c :: text) with
      | none =>
        obtain ⟨spans, hspans⟩ := ih text.length (by simp) (some c) text rfl
        exact ⟨_, .outside hliteral hspans⟩
      | some n =>
        obtain ⟨marks, q, content, rest, htext, hmarks, hquote, rfl⟩ := literal?_eq_some hliteral
        have hshorter : rest.length < (c :: text).length := by
          rw [htext]
          simp only [List.length_append, List.length_cons]
          omega
        obtain ⟨spans, hspans⟩ := ih rest.length hshorter (some q) rest rfl
        rw [htext] at hliteral ⊢
        exact ⟨_, .literal hmarks hquote hliteral hspans⟩

theorem Scans.chars_eq {before : Option Char} {text : List Char} {spans : List Span}
    (h : Scans before text spans) : text = spans.flatMap Span.chars := by
  induction h with
  | done => rfl
  | outside _ _ ih => rw [List.flatMap_cons, ← ih, Span.chars, List.singleton_append]
  | literal _ _ _ _ ih =>
    rw [List.flatMap_cons, ← ih, Span.chars]
    simp

theorem getLast?_cons_or (c : Char) (text : List Char) (before : Option Char) :
    (c :: text).getLast?.or before = text.getLast?.or (some c) := by
  rw [List.getLast?_cons]
  cases text.getLast? <;> rfl

theorem blankMatches_skip (matcher : Option Char → List Char → Option Nat) (before : Option Char)
    (skipped text : List Char) :
    blankMatches matcher skipped.length before (skipped ++ text) =
      blankMatches matcher 0 (skipped.getLast?.or before) text := by
  induction skipped generalizing before with
  | nil => rfl
  | cons c skipped ih =>
    rw [List.length_cons, List.cons_append, blankMatches, ih, getLast?_cons_or]

theorem blankMatches_match {matcher : Option Char → List Char → Option Nat}
    {before : Option Char} {matched text : List Char} (hne : matched ≠ [])
    (h : matcher before (matched ++ text) = some matched.length) :
    blankMatches matcher 0 before (matched ++ text) =
      ' ' :: blankMatches matcher 0 matched.getLast? text := by
  cases matched with
  | nil => exact absurd rfl hne
  | cons c matched =>
    rw [List.cons_append] at h ⊢
    rw [blankMatches, h]
    simp only [List.length_cons, Nat.add_sub_cancel]
    rw [blankMatches_skip, List.getLast?_cons]
    cases matched.getLast? <;> rfl

theorem literal_append (marks content text : List Char) (q : Char) :
    marks ++ q :: (content ++ q :: text) = (marks ++ q :: (content ++ [q])) ++ text := by
  simp

theorem blankMatches_literal {matcher : Option Char → List Char → Option Nat}
    {before : Option Char} {marks content text : List Char} {q : Char}
    (h : matcher before (marks ++ q :: (content ++ q :: text)) =
      some (marks.length + content.length + 2)) :
    blankMatches matcher 0 before (marks ++ q :: (content ++ q :: text)) =
      ' ' :: blankMatches matcher 0 (some q) text := by
  have hlast : (marks ++ q :: (content ++ [q])).getLast? = some q := by
    rw [← List.cons_append, ← List.append_assoc, List.getLast?_concat]
  rw [literal_append] at h ⊢
  rw [blankMatches_match (by simp) (by rw [h]; simp; omega), hlast]

theorem Scans.stripLiterals_eq {before : Option Char} {text : List Char} {spans : List Span}
    (h : Scans before text spans) :
    blankMatches literal? 0 before text = spans.map Span.blanked := by
  induction h with
  | done => rfl
  | @outside before c text spans hnone _ ih =>
    rw [blankMatches, hnone, List.map_cons, Span.blanked, ← ih]
  | @literal before marks content text q spans hmarks hquote hliteral _ ih =>
    rw [blankMatches_literal hliteral, ih, List.map_cons, Span.blanked]

/-! ### Characters of literals -/

theorem isQuote_iff {c : Char} : isQuote c = true ↔ c = '\'' ∨ c = '"' := by
  simp [isQuote]

theorem isWordChar_of_quote {c : Char} (h : isQuote c = true) : isWordChar c = false := by
  rcases isQuote_iff.1 h with rfl | rfl <;> decide

theorem isLiteralMark_of_quote {c : Char} (h : isQuote c = true) : isLiteralMark c = false := by
  rcases isQuote_iff.1 h with rfl | rfl <;> decide

theorem isBlank_of_quote {c : Char} (h : isQuote c = true) : isBlank c = false := by
  rcases isQuote_iff.1 h with rfl | rfl <;> decide

theorem mem_marks {c : Char} (h : isLiteralMark c = true) : c ∈ "rRbBuUfF".toList := by
  simpa [isLiteralMark] using h

theorem isWordChar_of_mark {c : Char} (h : isLiteralMark c = true) : isWordChar c = true := by
  have hall : "rRbBuUfF".toList.all isWordChar = true := by decide
  exact List.all_eq_true.1 hall c (mem_marks h)

theorem isQuote_of_mark {c : Char} (h : isLiteralMark c = true) : isQuote c = false := by
  cases hq : isQuote c with
  | false => rfl
  | true =>
    rw [isLiteralMark_of_quote hq] at h
    exact h.symm

theorem bareLiteral?_of_not_quote {c : Char} (h : isQuote c = false) (text : List Char) :
    bareLiteral? (c :: text) = none := by
  rw [bareLiteral?, if_neg]
  rw [← isQuote_iff, h]
  exact Bool.false_ne_true

theorem not_word_before_marks {before : Option Char} {c : Char} {text : List Char} {n : Nat}
    (hc : isLiteralMark c = true) (h : literal? before (c :: text) = some n) :
    before.any isWordChar = false := by
  have hbare := bareLiteral?_of_not_quote (isQuote_of_mark hc)
  cases hbefore : before.any isWordChar with
  | false => rfl
  | true =>
    have hboundary : isBoundary before (some c) = false := by
      rw [isBoundary, hbefore, Option.any_some, isWordChar_of_mark hc]
      rfl
    unfold literal? at h
    split at h
    · next heq =>
      cases heq
      rw [hboundary, Bool.and_false, if_neg Bool.false_ne_true, hbare] at h
      cases h
    · rw [hbare] at h
      cases h

/-! ### Words -/

/-- What stands between the quotes of the literals of a text. -/
def contents (spans : List Span) : List (List Char) := spans.filterMap Span.content?

theorem contents_literal (marks content : List Char) (q : Char) (spans : List Span) :
    contents (.literal marks q content :: spans) = content :: contents spans := rfl

theorem words_append_cons_of_not {c : Char} (hc : isWordChar c = false) (front text : List Char) :
    words (front ++ c :: text) = words front ++ words text :=
  runs_append_cons_of_not hc front text

theorem words_append_marks {text marks : List Char} (hmarks : ∀ c ∈ marks, isWordChar c = true)
    (hne : marks ≠ []) (htext : text.getLast?.any isWordChar = false) :
    words (text ++ marks) = words text ++ [marks] := by
  have hone : words marks = [marks] := by
    have := runs_append_of_all hmarks hne (show ([] : List Char).head?.all _ from rfl)
    rwa [List.append_nil] at this
  induction text using List.reverseRec with
  | nil => exact hone
  | append_singleton text c _ =>
    have hc : isWordChar c = false := by simpa using htext
    have hnil : words [] = [] := rfl
    rw [List.append_assoc, List.singleton_append, words_append_cons_of_not hc,
      words_append_cons_of_not hc, hnil, List.append_nil, hone]

/-- A word that is no mark is a word of the text if it is one outside of literals or in a literal.
-/
theorem Scans.mem_words_iff {before : Option Char} {text : List Char} {spans : List Span}
    (h : Scans before text spans) {word : List Char}
    (hword : ∃ c ∈ word, isLiteralMark c = false) {front : List Char}
    (hfront : front.getLast?.any isWordChar = before.any isWordChar) :
    word ∈ words (front ++ text) ↔
      word ∈ words (front ++ spans.map Span.blanked) ∨
        ∃ content ∈ contents spans, word ∈ words content := by
  induction h generalizing front with
  | done => simp [contents]
  | @outside before c text spans _ _ ih =>
    have ih := @ih (front ++ [c]) (by simp)
    simpa [contents, Span.blanked, Span.content?] using ih
  | @literal before marks content text q spans hmarks hquote hliteral _ ih =>
    have hq := isWordChar_of_quote hquote
    have ih := @ih [] (by simp [hq])
    have hnot : ∀ marks : List Char, (∀ c ∈ marks, isLiteralMark c = true) → word ≠ marks := by
      rintro marks hmarks rfl
      obtain ⟨c, hc, hfalse⟩ := hword
      rw [hmarks c hc] at hfalse
      cases hfalse
    have hmarked : word ∈ words (front ++ marks) ↔ word ∈ words front := by
      cases marks with
      | nil => rw [List.append_nil]
      | cons a marks =>
        have hlast := not_word_before_marks (hmarks a (by simp)) hliteral
        rw [words_append_marks (fun c hc => isWordChar_of_mark (hmarks c hc)) (by simp)
          (hfront.trans hlast), List.mem_append, List.mem_singleton]
        exact or_iff_left (hnot _ hmarks)
    have hblank : isWordChar ' ' = false := by decide
    rw [← List.append_assoc, words_append_cons_of_not hq, words_append_cons_of_not hq,
      List.map_cons, Span.blanked, words_append_cons_of_not hblank, contents_literal]
    simp only [List.mem_append, List.nil_append, List.exists_mem_cons_iff] at ih ⊢
    rw [hmarked, ih, or_assoc, or_left_comm (a := word ∈ words content)]

end LambdaText.Source
