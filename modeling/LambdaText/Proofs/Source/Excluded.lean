import LambdaText.Proofs.Source.Alike
import Mathlib.Data.Option.Basic

/-!
# Free names and literals

The scan for free names jumps over literals, and what else it jumps over never runs into one: such a
span ends at the edge of a word, before the quote of the next literal. So the free names of a text
do not depend on what its literals hold.
-/

namespace LambdaText.Source

open LambdaText.Text

/-! ### Spans without quotes -/

/-- The length of a span other than a literal that holds no free name. -/
def plainSpan? (receiver : List Char) (before : Option Char) (text : List Char) : Option Nat :=
  capitalOrAttribute? before text <|> label? before text <|> receiver? receiver before text

theorem excluded?_eq (receiver : List Char) (before : Option Char) (text : List Char) :
    excluded? receiver before text =
      (literal? before text <|> plainSpan? receiver before text) := rfl

theorem excluded?_eq_plainSpan? (receiver : List Char) {before : Option Char} {text : List Char}
    (h : literal? before text = none) :
    excluded? receiver before text = plainSpan? receiver before text := by
  rw [excluded?_eq, h]
  rfl

theorem takeWhile_word_append {q : Char} (hq : isWordChar q = false) (front text : List Char) :
    (front ++ q :: text).takeWhile isWordChar = front.takeWhile isWordChar := by
  induction front with
  | nil => simp [hq]
  | cons c front ih => cases hc : isWordChar c <;> simp [hc, ih]

theorem dropWhile_word_append {q : Char} (hq : isWordChar q = false) (front text : List Char) :
    (front ++ q :: text).dropWhile isWordChar = front.dropWhile isWordChar ++ q :: text := by
  induction front with
  | nil => simp [hq]
  | cons c front ih => cases hc : isWordChar c <;> simp [hc, ih]

theorem head?_dropWhile_word (text : List Char) :
    (text.dropWhile isWordChar).head?.any isWordChar = false := by
  have h := List.head?_dropWhile_not isWordChar text
  cases hhead : (text.dropWhile isWordChar).head? with
  | none => rfl
  | some c =>
    rw [hhead] at h
    exact h

section

variable {receiver rest : List Char}

/-- What the scan for free names passes over outside of literals, with what is behind it. -/
inductive PlainSpan (receiver : List Char) : List Char → List Char → Prop
  | capital {c : Char} {word rest : List Char} (hcapital : 'A' ≤ c ∧ c ≤ 'Z')
      (hword : ∀ d ∈ c :: word, isWordChar d = true)
      (hrest : rest.head?.any isWordChar = false) : PlainSpan receiver (c :: word) rest
  | point {word rest : List Char} (hne : word ≠ [])
      (hword : ∀ d ∈ word, isWordChar d = true)
      (hrest : rest.head?.any isWordChar = false) : PlainSpan receiver ('.' :: word) rest
  | label {word rest : List Char} (hne : word ≠ []) (hword : ∀ d ∈ word, isWordChar d = true) :
      PlainSpan receiver (word ++ [':']) rest
  | receiver {rest : List Char} (hne : receiver ≠ [])
      (hedge : isBoundary receiver.getLast? rest.head? = true) : PlainSpan receiver receiver rest

theorem isWordChar_of_asciiNameStart {c : Char} (h : isAsciiNameStart c = true) :
    isWordChar c = true := by
  rw [isAsciiNameStart, Bool.or_eq_true] at h
  rcases h with hletter | hline
  · have hascii : c.toNat < 0x80 := by
      have below : ∀ d : Char, c ≤ d → c.toNat ≤ d.toNat := fun d hd => by
        rwa [Char.le_def, UInt32.le_iff_toNat_le] at hd
      simp only [isAsciiLetter, Bool.or_eq_true, Bool.and_eq_true, decide_eq_true_eq] at hletter
      rcases hletter with h | h
      · exact Nat.lt_of_le_of_lt (below 'z' h.2) (by decide)
      · exact Nat.lt_of_le_of_lt (below 'Z' h.2) (by decide)
    simp [isWordChar, isLetter, hascii, hletter]
  · simp [isWordChar, hline]

theorem isWordChar_of_capital {c : Char} (h : 'A' ≤ c ∧ c ≤ 'Z') : isWordChar c = true :=
  isWordChar_of_asciiNameStart (by simp [isAsciiNameStart, isAsciiLetter, h])

theorem mem_takeWhile_word {text : List Char} : ∀ c ∈ text.takeWhile isWordChar,
    isWordChar c = true :=
  fun _ hc => List.mem_takeWhile_imp hc

theorem capitalOrAttribute?_eq_some {before : Option Char} {text : List Char} {n : Nat}
    (h : capitalOrAttribute? before text = some n) :
    ∃ span rest, text = span ++ rest ∧ n = span.length ∧ PlainSpan receiver span rest := by
  cases text with
  | nil => cases h
  | cons c text =>
    simp only [capitalOrAttribute?] at h
    split at h
    · next hcapital =>
      split at h
      · cases h
        refine ⟨c :: text.takeWhile isWordChar, text.dropWhile isWordChar, by simp, by simp; omega,
          .capital hcapital (List.forall_mem_cons.2
            ⟨isWordChar_of_capital hcapital, mem_takeWhile_word⟩) (head?_dropWhile_word text)⟩
      · cases h
    · split at h
      · next hpoint =>
        split at h
        · next d text =>
          split at h
          · next hd =>
            cases h
            subst hpoint
            refine ⟨'.' :: d :: text.takeWhile isWordChar, text.dropWhile isWordChar, by simp,
              by simp; omega, .point (by simp) (List.forall_mem_cons.2
                ⟨isWordChar_of_asciiNameStart hd, mem_takeWhile_word⟩) (head?_dropWhile_word text)⟩
          · cases h
        · cases h
      · cases h

theorem label?_eq_some {before : Option Char} {text : List Char} {n : Nat}
    (h : label? before text = some n) :
    ∃ span rest, text = span ++ rest ∧ n = span.length ∧ PlainSpan receiver span rest := by
  cases text with
  | nil => cases h
  | cons c text =>
    rw [label?] at h
    split at h
    · next hc =>
      rw [Bool.and_eq_true] at hc
      split at h
      · next after hafter =>
        cases h
        have hsplit : text.takeWhile isWordChar ++ ':' :: after = text := by
          rw [← hafter, List.takeWhile_append_dropWhile]
        refine ⟨c :: text.takeWhile isWordChar ++ [':'], after, by simp [hsplit], by simp; omega,
          .label (by simp) (List.forall_mem_cons.2
            ⟨isWordChar_of_asciiNameStart hc.1, mem_takeWhile_word⟩)⟩
      · cases h
    · cases h

theorem receiver?_eq_some {before : Option Char} {text : List Char} {n : Nat}
    (h : receiver? receiver before text = some n) :
    ∃ span rest, text = span ++ rest ∧ n = span.length ∧ PlainSpan receiver span rest := by
  rw [receiver?] at h
  split at h
  · next hall =>
    cases h
    simp only [Bool.and_eq_true] at hall
    obtain ⟨⟨⟨hne, hin⟩, -⟩, hedge⟩ := hall
    obtain ⟨rest, rfl⟩ := List.isPrefixOf_iff_prefix.1 hin
    rw [List.drop_left] at hedge
    exact ⟨receiver, rest, rfl, rfl, .receiver (by simpa using hne) hedge⟩
  · cases h

theorem plainSpan?_eq_some {before : Option Char} {text : List Char} {n : Nat}
    (h : plainSpan? receiver before text = some n) :
    ∃ span rest, text = span ++ rest ∧ n = span.length ∧ PlainSpan receiver span rest := by
  rw [plainSpan?] at h
  rcases (Option.orElse_eq_some ..).1 h with h | ⟨-, h⟩
  · exact capitalOrAttribute?_eq_some h
  · rcases (Option.orElse_eq_some ..).1 h with h | ⟨-, h⟩
    · exact label?_eq_some h
    · exact receiver?_eq_some h

theorem PlainSpan.ne_nil {span : List Char} (h : PlainSpan receiver span rest) : span ≠ [] := by
  cases h with
  | capital => simp
  | point => simp
  | label => simp
  | receiver hne => exact hne

theorem edge_of_isBoundary {before after : Option Char} (h : isBoundary before after = true) :
    before.any isWordChar = false ∨ after.any isWordChar = false := by
  rw [isBoundary] at h
  cases hbefore : before.any isWordChar <;> simp_all

/-- A span that is passed over ends at the edge of a word. -/
theorem PlainSpan.edge {span : List Char} (h : PlainSpan receiver span rest) :
    span.getLast?.any isWordChar = false ∨ rest.head?.any isWordChar = false := by
  cases h with
  | capital _ _ hrest => exact .inr hrest
  | point _ _ hrest => exact .inr hrest
  | label =>
    left
    rw [List.getLast?_concat]
    decide
  | receiver _ hedge => exact edge_of_isBoundary hedge

/-- A match of a length that is not empty, lies in the text, and ends at the edge of a word. -/
structure EndsWell (text : List Char) (n : Nat) : Prop where
  pos : 0 < n
  le : n ≤ text.length
  edge : (text.take n).getLast?.any isWordChar = false ∨
    (text.drop n).head?.any isWordChar = false

theorem endsWell_plainSpan? {before : Option Char} {text : List Char} {n : Nat}
    (h : plainSpan? receiver before text = some n) : EndsWell text n := by
  obtain ⟨span, rest, rfl, rfl, hspan⟩ := plainSpan?_eq_some h
  exact ⟨List.length_pos_iff.2 hspan.ne_nil, by simp, by simpa using hspan.edge⟩

end

/-- A character with which all spans but literals are over. -/
structure IsStop (c : Char) : Prop where
  noWord : isWordChar c = false
  noPoint : c ≠ '.'
  noColon : c ≠ ':'

theorem isStop_of_quote {q : Char} (h : isQuote q = true) : IsStop q := by
  rcases isQuote_iff.1 h with rfl | rfl <;> exact ⟨by decide, by decide, by decide⟩

theorem isStop_blank : IsStop ' ' := ⟨by decide, by decide, by decide⟩

theorem isAsciiNameStart_of_not_word {c : Char} (h : isWordChar c = false) :
    isAsciiNameStart c = false := by
  cases hstart : isAsciiNameStart c with
  | false => rfl
  | true =>
    rw [isWordChar_of_asciiNameStart hstart] at h
    cases h

/-- What is behind the end of a word does not matter for a match in front of it. -/
theorem capitalOrAttribute?_append {q : Char} (hword : isWordChar q = false) {front : List Char}
    (hpoint : front = [] → q ≠ '.') (before : Option Char) (text : List Char) :
    capitalOrAttribute? before (front ++ q :: text) = capitalOrAttribute? before front := by
  match front with
  | [] =>
    have hcapital : ¬ ('A' ≤ q ∧ q ≤ 'Z') := fun h => by
      rw [isWordChar_of_capital h] at hword
      cases hword
    simp [capitalOrAttribute?, hcapital, hpoint rfl]
  | [c] => simp [capitalOrAttribute?, hword, isAsciiNameStart_of_not_word hword]
  | c :: d :: front =>
    simp only [List.cons_append, capitalOrAttribute?]
    rw [← List.cons_append, takeWhile_word_append hword, takeWhile_word_append hword]

theorem label?_append {q : Char} (hq : IsStop q) (before : Option Char)
    (front text : List Char) : label? before (front ++ q :: text) = label? before front := by
  have hword := hq.noWord
  cases front with
  | nil => simp [label?, isAsciiNameStart_of_not_word hword]
  | cons c front =>
    simp only [List.cons_append, label?]
    rw [dropWhile_word_append hword, takeWhile_word_append hword]
    cases front.dropWhile isWordChar with
    | nil => simp [hq.noColon]
    | cons d rest =>
      by_cases hd : d = ':'
      · rw [hd]
        rfl
      · simp [hd]

theorem isPrefixOf_append {receiver : List Char} {q : Char} (hq : q ∉ receiver)
    (front text : List Char) :
    receiver.isPrefixOf (front ++ q :: text) = receiver.isPrefixOf front := by
  induction receiver generalizing front with
  | nil => rw [List.isPrefixOf_nil_left, List.isPrefixOf_nil_left]
  | cons c receiver ih =>
    rw [List.mem_cons, not_or] at hq
    cases front with
    | nil => simp [List.isPrefixOf, Ne.symm hq.1]
    | cons d front => rw [List.cons_append, List.isPrefixOf, List.isPrefixOf, ih hq.2]

theorem receiver?_append {receiver : List Char} {q : Char} (hmem : q ∉ receiver) (hq : IsStop q)
    (before : Option Char) (front text : List Char) :
    receiver? receiver before (front ++ q :: text) = receiver? receiver before front := by
  have hhead : ∀ rest : List Char, (rest ++ q :: text).head?.any isWordChar =
      rest.head?.any isWordChar := by
    intro rest
    cases rest with
    | nil => exact hq.noWord
    | cons _ _ => rfl
  rw [receiver?, receiver?, isPrefixOf_append hmem]
  cases hin : receiver.isPrefixOf front with
  | false => simp
  | true =>
    obtain ⟨rest, rfl⟩ := List.isPrefixOf_iff_prefix.1 hin
    rw [List.append_assoc, List.drop_left, List.drop_left, ← List.append_assoc]
    simp only [isBoundary, hhead]
    rfl

theorem plainSpan?_append {receiver : List Char} {q : Char} (hmem : q ∉ receiver) (hq : IsStop q)
    (before : Option Char) (front text : List Char) :
    plainSpan? receiver before (front ++ q :: text) = plainSpan? receiver before front := by
  rw [plainSpan?, plainSpan?, capitalOrAttribute?_append hq.noWord fun _ => hq.noPoint,
    label?_append hq, receiver?_append hmem hq]

/-! ### Up to the first quote -/

/-- What stands in front of the first quote of a literal, if there is a literal. -/
def front? : List Span → Option (List Char)
  | [] => none
  | .outside c :: spans => (front? spans).map (c :: ·)
  | .literal marks _ _ :: _ => some marks

/-- Takes characters in front of the first quote off. -/
def dropChars : Nat → List Span → List Span
  | 0, spans => spans
  | _ + 1, [] => []
  | n + 1, .outside _ :: spans => dropChars n spans
  | n + 1, .literal marks q content :: spans => .literal (marks.drop (n + 1)) q content :: spans

theorem front?_outline (spans : List Span) : front? (spans.map Span.outline) = front? spans := by
  induction spans with
  | nil => rfl
  | cons span spans ih =>
    cases span with
    | outside c => rw [List.map_cons, Span.outline, front?, ih, front?]
    | literal => rfl

theorem dropChars_outline (n : Nat) (spans : List Span) :
    (dropChars n spans).map Span.outline = dropChars n (spans.map Span.outline) := by
  induction spans generalizing n with
  | nil => cases n <;> rfl
  | cons span spans ih =>
    cases n with
    | zero => rfl
    | succ n =>
      cases span with
      | outside c => exact ih n
      | literal => rfl

/-- Without literals a text is its outline. -/
theorem outline_eq_of_front? {spans : List Span} (h : front? spans = none) :
    spans.map Span.outline = spans := by
  induction spans with
  | nil => rfl
  | cons span spans ih =>
    cases span with
    | outside c => rw [List.map_cons, ih (Option.map_eq_none_iff.1 h), Span.outline]
    | literal => cases h

theorem Scans.eq_append_of_front? {before : Option Char} {text front : List Char}
    {spans : List Span} (h : Scans before text spans) (hfront : front? spans = some front) :
    ∃ q later, text = front ++ q :: later ∧ isQuote q = true := by
  induction h generalizing front with
  | done => cases hfront
  | outside _ _ ih =>
    obtain ⟨rest, hrest, rfl⟩ := Option.map_eq_some_iff.1 hfront
    obtain ⟨q, later, rfl, hq⟩ := ih hrest
    exact ⟨q, later, rfl, hq⟩
  | literal _ hquote _ _ _ =>
    cases hfront
    exact ⟨_, _, rfl, hquote⟩

theorem literal?_of_quote {q : Char} (hq : isQuote q = true) (before : Option Char)
    (text : List Char) : literal? before (q :: text) = bareLiteral? (q :: text) := by
  cases text with
  | nil => rfl
  | cons c text =>
    have hmark := isLiteralMark_of_quote hq
    simp [literal?, hmark]

theorem bareLiteral?_of_literal? {before : Option Char} {marks text : List Char} {q : Char}
    {n : Nat} (hmarks : ∀ c ∈ marks, isLiteralMark c = true) (hquote : isQuote q = true)
    (h : literal? before (marks ++ q :: text) = some (marks.length + n)) :
    bareLiteral? (q :: text) = some n := by
  have hnone : ∀ {c : Char} (rest : List Char), isLiteralMark c = true →
      bareLiteral? (c :: rest) = none := fun rest hc =>
    bareLiteral?_of_not_quote (isQuote_of_mark hc) rest
  match marks with
  | [] => simpa [literal?_of_quote hquote] using h
  | [a] =>
    have hq := isLiteralMark_of_quote hquote
    simp only [List.cons_append, List.nil_append, literal?] at h
    split at h
    · obtain ⟨k, hk, hlength⟩ := Option.map_eq_some_iff.1 (by simpa [hq] using h)
      rw [hk]
      congr 1
      omega
    · rw [hnone _ (hmarks a (by simp))] at h
      cases h
  | a :: b :: marks =>
    have hb := hmarks b (by simp)
    simp only [List.cons_append, literal?, hb, if_true] at h
    split at h
    · cases marks with
      | nil =>
        obtain ⟨k, hk, hlength⟩ := Option.map_eq_some_iff.1 h
        rw [List.nil_append] at hk
        rw [hk]
        congr 1
        simp only [List.length_cons, List.length_nil] at hlength
        omega
      | cons c marks =>
        rw [List.cons_append, hnone _ (hmarks c (by simp))] at h
        cases h
    · rw [hnone _ (hmarks a (by simp))] at h
      cases h

/-- Behind a part that ends at the edge of a word, in front of the first quote, the scanner goes on
as before. -/
theorem Scans.dropChars {before : Option Char} {text skipped rest : List Char} {spans : List Span}
    (h : Scans before text spans) (hfront : front? spans = some (skipped ++ rest))
    (hedge : skipped.getLast?.any isWordChar = false ∨ rest.head?.any isWordChar = false) :
    Scans (skipped.getLast?.or before) (text.drop skipped.length)
      (Source.dropChars skipped.length spans) := by
  induction h generalizing skipped with
  | done => cases hfront
  | @outside before c text spans hnone h ih =>
    cases skipped with
    | nil => exact .outside hnone h
    | cons d skipped =>
      obtain ⟨front, hlater, heq⟩ := Option.map_eq_some_iff.1 hfront
      obtain ⟨rfl, rfl⟩ := List.cons.inj heq
      rw [getLast?_cons_or]
      refine ih hlater (hedge.imp_left fun hword => ?_)
      rw [List.getLast?_cons] at hword
      cases hskipped : skipped.getLast? with
      | none => rfl
      | some d =>
        rw [hskipped] at hword
        exact hword
  | @literal before marks content text q spans hmarks hquote hliteral h _ =>
    cases skipped with
    | nil => exact .literal hmarks hquote hliteral h
    | cons d skipped =>
      have hlast : ((d :: skipped).getLast?).any isWordChar = true := by
        rw [Option.any_eq_true]
        refine ⟨_, List.getLast?_eq_some_getLast (List.cons_ne_nil d skipped), ?_⟩
        refine isWordChar_of_mark (hmarks _ ?_)
        rw [Option.some.inj hfront]
        exact List.mem_append_left _ (List.getLast_mem _)
      cases rest with
      | cons e rest =>
        have he : isLiteralMark e = true := hmarks e (by rw [Option.some.inj hfront]; simp)
        rw [hlast, List.head?_cons, Option.any_some, isWordChar_of_mark he] at hedge
        exact hedge.elim (fun h => nomatch h) fun h => nomatch h
      | nil =>
        rw [List.append_nil] at hfront
        cases hfront
        have hbare := bareLiteral?_of_literal? hmarks hquote (hliteral.trans (by
          rw [Nat.add_assoc]))
        have hdrop : Source.dropChars (d :: skipped).length
            (.literal (d :: skipped) q content :: spans) = .literal [] q content :: spans := by
          rw [List.length_cons, Source.dropChars, ← List.length_cons, List.drop_length]
        rw [List.drop_left, hdrop]
        have hfound : literal? ((d :: skipped).getLast?.or before) (q :: (content ++ q :: text)) =
            some (([] : List Char).length + content.length + 2) := by
          rw [literal?_of_quote hquote, hbare]
          simp
        exact Scans.literal (List.forall_mem_nil _) hquote hfound h

/-! ### Free names -/

theorem isQuote_of_identifier {name : List Char} (h : isIdentifier name = true) :
    ∀ c ∈ name, isQuote c = false := by
  intro c hc
  cases hq : isQuote c with
  | false => rfl
  | true =>
    refine absurd hc (not_mem_identifier h ?_)
    rcases isQuote_iff.1 hq with rfl | rfl <;> decide

theorem excluded?_of_literal {receiver : List Char} {before : Option Char} {text : List Char}
    {n : Nat} (h : literal? before text = some n) : excluded? receiver before text = some n := by
  rw [excluded?_eq, h]
  rfl

/-- In front of the first quote the scan for free names sees only what stands there. -/
theorem excluded?_of_front {receiver : List Char} (hreceiver : ∀ c ∈ receiver, isQuote c = false)
    {before : Option Char} {text front : List Char} {spans : List Span}
    (h : Scans before text spans) (hfront : front? spans = some front)
    (hnone : literal? before text = none) :
    excluded? receiver before text = plainSpan? receiver before front := by
  obtain ⟨q, later, rfl, hq⟩ := h.eq_append_of_front? hfront
  rw [excluded?_eq_plainSpan? receiver hnone,
    plainSpan?_append (fun hmem => ne_of_quote hq (hreceiver q hmem) rfl) (isStop_of_quote hq)]

/-- A match in front of the first quote is blanked, and the rest has the spans that remain. -/
theorem Scans.blankMatches_front {matcher : Option Char → List Char → Option Nat}
    {before : Option Char} {text front : List Char} {spans : List Span} {n : Nat}
    (h : Scans before text spans) (hfront : front? spans = some front) (hends : EndsWell front n)
    (hmatch : matcher before text = some n) :
    (text.drop n).length < text.length ∧
      Scans (front.take n).getLast? (text.drop n) (Source.dropChars n spans) ∧
      blankMatches matcher 0 before text =
        ' ' :: blankMatches matcher 0 (front.take n).getLast? (text.drop n) := by
  have hlength : (front.take n).length = n := List.length_take_of_le hends.le
  have hne : front.take n ≠ [] := by
    rw [← List.length_pos_iff, hlength]
    exact hends.pos
  obtain ⟨q, later, htext, -⟩ := h.eq_append_of_front? hfront
  have hsplit : front.take n ++ text.drop n = text := by
    conv_rhs => rw [← List.take_append_drop n text]
    rw [htext, List.take_append_of_le_length hends.le]
  have hscans := h.dropChars (hfront.trans (congrArg some (List.take_append_drop n front).symm))
    hends.edge
  have hsome : (front.take n).getLast?.or before = (front.take n).getLast? := by
    rw [List.getLast?_eq_some_getLast hne]
    rfl
  rw [hsome, hlength] at hscans
  refine ⟨?_, hscans, ?_⟩
  · have hpos := hends.pos
    have hsum := congrArg List.length hsplit
    rw [List.length_append, hlength] at hsum
    omega
  · conv_lhs => rw [← hsplit]
    refine blankMatches_match hne ?_
    rw [hsplit, hmatch, hlength]

/-- Texts with the same outline leave the same for free names. -/
theorem blankMatches_excluded_eq {receiver : List Char}
    (hreceiver : ∀ c ∈ receiver, isQuote c = false) {before : Option Char}
    {text other : List Char} {spans others : List Span} (h : Scans before text spans)
    (h' : Scans before other others)
    (hsame : spans.map Span.outline = others.map Span.outline) :
    blankMatches (excluded? receiver) 0 before text =
      blankMatches (excluded? receiver) 0 before other := by
  induction hlength : text.length using Nat.strong_induction_on
    generalizing before text other spans others with
  | _ size ih =>
    subst hlength
    cases hfront : front? spans with
    | none =>
      have hfront' : front? others = none := by
        rw [← front?_outline, ← hsame, front?_outline, hfront]
      rw [outline_eq_of_front? hfront, outline_eq_of_front? hfront'] at hsame
      rw [h.chars_eq, h'.chars_eq, hsame]
    | some front =>
      have hfront' : front? others = some front := by
        rw [← front?_outline, ← hsame, front?_outline, hfront]
      have hwhole := h
      have hwhole' := h'
      cases h with
      | done => cases hfront
      | @outside _ c text spans hnone hrest =>
        cases h' with
        | done => cases hsame
        | literal => cases hsame
        | @outside _ c' other others hnone' hrest' =>
          obtain ⟨hhead, htail⟩ := List.cons.inj hsame
          cases hhead
          have hmatch := excluded?_of_front hreceiver hwhole hfront hnone
          have hmatch' := excluded?_of_front hreceiver hwhole' hfront' hnone'
          cases hspan : plainSpan? receiver before front with
          | none =>
            rw [blankMatches, hmatch, hspan, blankMatches, hmatch', hspan]
            exact congrArg (c :: ·) (ih text.length (by simp) hrest hrest' htail rfl)
          | some n =>
            rw [hspan] at hmatch hmatch'
            have hends := endsWell_plainSpan? hspan
            obtain ⟨hlt, hscans, hblank⟩ := hwhole.blankMatches_front hfront hends hmatch
            obtain ⟨-, hscans', hblank'⟩ := hwhole'.blankMatches_front hfront' hends hmatch'
            have hrest : (dropChars n (.outside c :: spans)).map Span.outline =
                (dropChars n (.outside c :: others)).map Span.outline := by
              rw [dropChars_outline, hsame, dropChars_outline]
            rw [hblank, hblank', ih _ hlt hscans hscans' hrest rfl]
      | @literal _ marks content text q spans hmarks hquote hliteral hrest =>
        cases h' with
        | done => cases hsame
        | outside => cases hsame
        | @literal _ marks' content' other q' others hmarks' hquote' hliteral' hrest' =>
          obtain ⟨hhead, htail⟩ := List.cons.inj hsame
          cases hhead
          have hshorter : text.length < (marks ++ q :: (content ++ q :: text)).length := by
            simp only [List.length_append, List.length_cons]
            omega
          rw [blankMatches_literal (excluded?_of_literal hliteral),
            blankMatches_literal (excluded?_of_literal hliteral'),
            ih text.length hshorter hrest hrest' htail rfl]

theorem freeNames_eq_of_outline {receiver : List Char}
    (hreceiver : ∀ c ∈ receiver, isQuote c = false) {text other : List Char}
    {spans others : List Span} (h : Scans none text spans) (h' : Scans none other others)
    (hsame : spans.map Span.outline = others.map Span.outline) :
    freeNames receiver text = freeNames receiver other := by
  rw [freeNames, freeNames]
  simp only [blankMatches_excluded_eq hreceiver h h' hsame]

end LambdaText.Source
