import LambdaText.Proofs.Code.Lexemes
import Mathlib.Data.List.TakeWhile

/-!
# Tokens one at a time

A token is taken off the front of a text. A quoted text goes on to its closing quotes whatever
stands behind them; every other token has no blanks and ends where a similar text would end it.
-/

namespace LambdaText.Code

open LambdaText.Text

/-! ### Quoted texts -/

/-- The quotes that close a quoted text. -/
def closing (q : Char) (triple : Bool) : List Char := if triple then [q, q, q] else [q]

/-- A text that closes a quoted text, with what is quoted and what comes behind. -/
inductive Closes (q : Char) (triple : Bool) : List Char → List Char → List Char → Prop
  | done (rest : List Char) : Closes q triple (closing q triple ++ rest) [] rest
  | escape (c : Char) {text body rest : List Char} (h : Closes q triple text body rest) :
      Closes q triple ('\\' :: c :: text) ('\\' :: c :: body) rest
  | char {c : Char} {text body rest : List Char} (hslash : c ≠ '\\')
      (hopen : ¬ closing q triple <+: c :: text) (hline : triple = false → c ≠ '\n')
      (h : Closes q triple text body rest) : Closes q triple (c :: text) (c :: body) rest

/-- Reads up to the closing quotes. -/
def close (q : Char) (triple : Bool) (text : List Char) : Option (List Char × List Char) :=
  if triple then closeTriple q text else closeSingle q text

theorem ne_slash_of_quote {q : Char} (hq : isQuoteChar q = true) : q ≠ '\\' := by
  rintro rfl
  cases hq

theorem closes_of_closeSingle {q : Char} {text body rest : List Char}
    (h : closeSingle q text = some (body, rest)) : Closes q false text body rest := by
  fun_induction closeSingle q text generalizing body with
  | case1 => cases h
  | case2 => cases h
  | case3 c text ih =>
    obtain ⟨⟨b, r⟩, hb, ⟨⟩⟩ := Option.map_eq_some_iff.1 h
    exact .escape c (ih hb)
  | case4 =>
    cases h
    exact .done rest
  | case5 => cases h
  | case6 c text hne hne' hq' hline ih =>
    obtain ⟨⟨b, r⟩, hb, ⟨⟩⟩ := Option.map_eq_some_iff.1 h
    refine .char ?_ ?_ (fun _ => hline) (ih hb)
    · rintro rfl
      cases text with
      | nil => exact hne rfl rfl
      | cons d text => exact hne' d text rfl rfl
    · rintro ⟨tail, htail⟩
      exact hq' (List.cons.inj htail).1.symm

theorem closes_of_closeTriple {q : Char} {text body rest : List Char}
    (h : closeTriple q text = some (body, rest)) : Closes q true text body rest := by
  fun_induction closeTriple q text generalizing body with
  | case1 => cases h
  | case2 => cases h
  | case3 c text ih =>
    obtain ⟨⟨b, r⟩, hb, ⟨⟩⟩ := Option.map_eq_some_iff.1 h
    exact .escape c (ih hb)
  | case4 c text hne hne' hq' =>
    rw [Bool.and_eq_true, decide_eq_true_eq] at hq'
    obtain ⟨rfl, hin⟩ := hq'
    obtain ⟨tail, rfl⟩ := List.isPrefixOf_iff_prefix.1 hin
    cases h
    exact .done tail
  | case5 c text hne hne' hq' ih =>
    obtain ⟨⟨b, r⟩, hb, ⟨⟩⟩ := Option.map_eq_some_iff.1 h
    refine .char ?_ ?_ (fun h => nomatch h) (ih hb)
    · rintro rfl
      cases text with
      | nil => exact hne rfl rfl
      | cons d text => exact hne' d text rfl rfl
    · rintro ⟨tail, htail⟩
      obtain ⟨rfl, rfl⟩ := List.cons.inj htail
      simp at hq'

theorem closeSingle_of_closes {q : Char} (hq : isQuoteChar q = true) {text body rest : List Char}
    (h : Closes q false text body rest) : closeSingle q text = some (body, rest) := by
  induction h with
  | done rest =>
    rw [closing, if_neg Bool.false_ne_true, List.singleton_append, closeSingle, if_pos rfl] <;>
      simp [ne_slash_of_quote hq]
  | escape c _ ih => rw [closeSingle, ih, Option.map_some]
  | @char c text body rest hslash hopen hline _ ih =>
    have hne : c ≠ q := by
      rintro rfl
      exact hopen ⟨text, rfl⟩
    rw [closeSingle, if_neg hne, if_neg (hline rfl), ih, Option.map_some] <;> simp [hslash]

theorem closeTriple_of_closes {q : Char} (hq : isQuoteChar q = true) {text body rest : List Char}
    (h : Closes q true text body rest) : closeTriple q text = some (body, rest) := by
  induction h with
  | done rest =>
    have hin : [q, q].isPrefixOf (q :: q :: rest) = true := by simp
    rw [show closing q true ++ rest = q :: q :: q :: rest from rfl, closeTriple, hin] <;>
      simp [ne_slash_of_quote hq]
  | escape c _ ih => rw [closeTriple, ih, Option.map_some]
  | @char c text body rest hslash hopen hline _ ih =>
    have hne : (decide (c = q) && [q, q].isPrefixOf text) = false := by
      rw [← Bool.not_eq_true, Bool.and_eq_true, decide_eq_true_eq]
      rintro ⟨rfl, hin⟩
      obtain ⟨tail, rfl⟩ := List.isPrefixOf_iff_prefix.1 hin
      exact hopen ⟨tail, rfl⟩
    rw [closeTriple, hne, if_neg Bool.false_ne_true, ih, Option.map_some] <;> simp [hslash]

/-- A quoted text starts with a quote, or three of them, and goes on to where it is closed. -/
theorem quotedBody?_eq_some {text body rest : List Char} :
    quotedBody? text = some (body, rest) ↔ ∃ q triple after, isQuoteChar q = true ∧
      text = closing q triple ++ after ∧ (triple = false → ¬ [q, q] <+: after) ∧
      Closes q triple after body rest := by
  constructor
  · intro h
    cases text with
    | nil => cases h
    | cons q text =>
      rw [quotedBody?] at h
      split at h
      · next hq =>
        have hquote : isQuoteChar q = true := by simpa [isQuoteChar] using hq
        split at h
        · next hin =>
          obtain ⟨after, rfl⟩ := List.isPrefixOf_iff_prefix.1 hin
          exact ⟨q, true, after, hquote, rfl, nofun, closes_of_closeTriple h⟩
        · next hin =>
          exact ⟨q, false, text, hquote, rfl,
            fun _ hpre => hin (List.isPrefixOf_iff_prefix.2 hpre), closes_of_closeSingle h⟩
      · cases h
  · rintro ⟨q, triple, after, hq, rfl, hopen, hcloses⟩
    have hquote : q = '\'' ∨ q = '"' := by simpa [isQuoteChar] using hq
    cases triple with
    | true =>
      have hin : [q, q].isPrefixOf (q :: q :: after) = true := by simp
      rw [show closing q true ++ after = q :: q :: q :: after from rfl, quotedBody?,
        if_pos hquote, if_pos hin]
      exact closeTriple_of_closes hq hcloses
    | false =>
      have hin : ¬ [q, q].isPrefixOf after = true :=
        fun h => hopen rfl (List.isPrefixOf_iff_prefix.1 h)
      rw [show closing q false ++ after = q :: after from rfl, quotedBody?, if_pos hquote,
        if_neg hin]
      exact closeSingle_of_closes hq hcloses

theorem Closes.eq_append {q : Char} {triple : Bool} {text body rest : List Char}
    (h : Closes q triple text body rest) : text = body ++ (closing q triple ++ rest) := by
  induction h with
  | done rest => rfl
  | escape c _ ih => rw [ih, List.cons_append, List.cons_append]
  | char _ _ _ _ ih => rw [ih, List.cons_append]

/-- What stands behind the closing quotes does not matter. -/
theorem Closes.change_rest {q : Char} {triple : Bool} {text body rest : List Char}
    (h : Closes q triple text body rest) (other : List Char) :
    Closes q triple (body ++ (closing q triple ++ other)) body other := by
  induction h with
  | done rest => exact .done other
  | escape c _ ih => exact .escape c ih
  | @char c text body rest hslash hopen hline h ih =>
    refine .char hslash (fun hin => hopen ?_) hline ih
    have hshort : closing q triple <+: c :: body ++ closing q triple :=
      List.prefix_of_prefix_length_le (by simpa using hin)
        (List.prefix_append (c :: body ++ closing q triple) other) (by simp; omega)
    rw [h.eq_append]
    simpa using hshort.trans (List.prefix_append _ rest)

/-! ### One token -/

/-- The token at the front of a text that starts with a name character. -/
def wordToken? (text : List Char) : Option (Token × List Char) :=
  let run := text.takeWhile mayBelongToName
  let rest := text.dropWhile mayBelongToName
  let mark := run.map Char.toLower
  if startsQuote rest && quoteMarks.contains (String.ofList mark) then
    (quotedBody? rest).map fun (body, r) => (.quoted mark body, r)
  else (nameToken? run).map fun t => (t, rest)

def token? (text : List Char) : Option (Token × List Char) :=
  if startsNumeral text then (numeral? text).map fun (n, r) => (.numeral n, r)
  else if startsQuote text then (quotedBody? text).map fun (body, r) => (.quoted [] body, r)
  else if text.head?.any mayBelongToName then wordToken? text
  else (sign? text).map fun (s, r) => (.sign s, r)

theorem seesSimilar_startsNumeral : SeesSimilar startsNumeral := by
  intro rest other h
  have hdigit := avoidsBlanks_isAsciiDigit
  cases h with
  | @blank d d' rest other hd hd' =>
    have hpoint : ∀ e, isBlank e = true → e ≠ '.' := by
      rintro e he rfl
      cases he
    have hfalse : ∀ e w, isBlank e = true → startsNumeral (e :: w) = false := by
      intro e w he
      rw [startsNumeral, hdigit e he]
      simp [hpoint e he]
    rw [hfalse d rest hd, hfalse d' other (isBlank_of_similar hd hd')]
  | @cons c rest other h =>
    by_cases hc : c = '.'
    · subst hc
      have := h.any_head hdigit
      cases h <;> exact this
    · rw [startsNumeral, startsNumeral] <;> simp [hc]

theorem mayBelongToName_of_quote {q : Char} (hq : isQuoteChar q = true) :
    mayBelongToName q = false := by
  have hquote : q = '\'' ∨ q = '"' := by simpa [isQuoteChar] using hq
  rcases hquote with rfl | rfl <;> rfl

section Runs

variable {α : Type} {test : α → Bool} {run : List α}

theorem takeWhile_append_stop {rest : List α} (hrun : ∀ c ∈ run, test c = true)
    (hstop : rest.head?.any test = false) : (run ++ rest).takeWhile test = run := by
  rw [List.takeWhile_append_of_pos hrun]
  cases rest with
  | nil => simp
  | cons d rest => rw [List.takeWhile_cons, show test d = false from hstop]; simp

theorem dropWhile_append_stop {rest : List α} (hrun : ∀ c ∈ run, test c = true)
    (hstop : rest.head?.any test = false) : (run ++ rest).dropWhile test = rest := by
  rw [List.dropWhile_append_of_pos hrun]
  cases rest with
  | nil => rfl
  | cons d rest => rw [List.dropWhile_cons, show test d = false from hstop]; rfl

end Runs

/-- A run of name characters that starts no numeral starts a name or a quoted text. -/
theorem token?_word {run : List Char} (hne : run ≠ []) (hall : ∀ c ∈ run, mayBelongToName c = true)
    (hdigit : run.head?.any isAsciiDigit = false) (rest : List Char) :
    token? (run ++ rest) = wordToken? (run ++ rest) := by
  cases run with
  | nil => exact absurd rfl hne
  | cons c run =>
    have hc : mayBelongToName c = true := hall c (by simp)
    have hpoint : c ≠ '.' := by
      rintro rfl
      cases hc
    have hnumeral : startsNumeral (c :: (run ++ rest)) = false := by
      rw [startsNumeral]
      · exact hdigit
      · simp [hpoint]
    have hquote : startsQuote (c :: (run ++ rest)) = false := by
      rw [startsQuote_eq, List.head?_cons, Option.any_some, ← Bool.not_eq_true]
      intro hq
      rw [mayBelongToName_of_quote hq] at hc
      cases hc
    rw [List.cons_append, token?, hnumeral, hquote, List.head?_cons, Option.any_some, hc]
    rfl

theorem ne_nil_of_mark {run : List Char}
    (h : quoteMarks.contains (String.ofList (run.map Char.toLower)) = true) : run ≠ [] := by
  rintro rfl
  revert h
  decide

/-- What may stand between the start of a token and its opening quotes. -/
structure IsMark (run : List Char) : Prop where
  noDigit : run.head?.any isAsciiDigit = false
  nil_or_mark : run = [] ∨ (∀ c ∈ run, mayBelongToName c = true) ∧
    quoteMarks.contains (String.ofList (run.map Char.toLower)) = true

theorem token?_quoted {run : List Char} (hrun : IsMark run) {q : Char}
    (hq : isQuoteChar q = true) {triple : Bool} {after body rest : List Char}
    (hopen : triple = false → ¬ [q, q] <+: after) (h : Closes q triple after body rest) :
    token? (run ++ (closing q triple ++ after)) =
      some (.quoted (run.map Char.toLower) body, rest) := by
  have hbody : quotedBody? (closing q triple ++ after) = some (body, rest) :=
    quotedBody?_eq_some.2 ⟨q, triple, after, hq, rfl, hopen, h⟩
  obtain ⟨tail, htail⟩ : ∃ tail, closing q triple ++ after = q :: tail := by
    cases triple <;> exact ⟨_, rfl⟩
  rw [htail] at hbody ⊢
  have hstarts : startsQuote (q :: tail) = true := by
    rw [startsQuote_eq]
    exact hq
  rcases hrun.nil_or_mark with rfl | ⟨hall, hmark⟩
  · have hdigit : startsNumeral (q :: tail) = false := by
      have hquote : q = '\'' ∨ q = '"' := by simpa [isQuoteChar] using hq
      rcases hquote with rfl | rfl <;> rfl
    rw [List.nil_append, token?, hdigit, hstarts, hbody]
    rfl
  · have hname : (q :: tail).head?.any mayBelongToName = false := mayBelongToName_of_quote hq
    have hword : wordToken? (run ++ q :: tail) =
        some (.quoted (run.map Char.toLower) body, rest) := by
      rw [wordToken?, takeWhile_append_stop hall hname, dropWhile_append_stop hall hname, hstarts,
        hmark, hbody]
      rfl
    rw [token?_word (ne_nil_of_mark hmark) hall hrun.noDigit, hword]

/-- A text that starts like a word is the word and what stands behind it. -/
theorem exists_word {text : List Char} (hnumeral : startsNumeral text = false)
    (hname : text.head?.any mayBelongToName = true) :
    ∃ run after, text = run ++ after ∧ text.takeWhile mayBelongToName = run ∧
      text.dropWhile mayBelongToName = after ∧ run ≠ [] ∧ (∀ c ∈ run, mayBelongToName c = true) ∧
      run.head?.any isAsciiDigit = false ∧ after.head?.any mayBelongToName = false := by
  cases text with
  | nil => cases hname
  | cons c tail =>
    have hc : mayBelongToName c = true := hname
    have hpoint : c ≠ '.' := by
      rintro rfl
      cases hc
    refine ⟨_, _, List.takeWhile_append_dropWhile.symm, rfl, rfl, ?_,
      fun c hc => List.mem_takeWhile_imp hc, ?_, ?_⟩
    · rw [List.takeWhile_cons, hc]
      exact List.cons_ne_nil _ _
    · rw [List.takeWhile_cons, hc, if_pos rfl, ← hnumeral, startsNumeral]
      · rfl
      · simp [hpoint]
    · have hhead := List.head?_dropWhile_not mayBelongToName (c :: tail)
      cases hd : ((c :: tail).dropWhile mayBelongToName).head? with
      | none => rfl
      | some d => simpa [hd] using hhead

theorem wordToken?_cases {text rest : List Char} {t : Token}
    (hnumeral : startsNumeral text = false) (hname : text.head?.any mayBelongToName = true)
    (h : wordToken? text = some (t, rest)) :
    (Takes token? text t rest ∧ rest.length < text.length ∧ ∀ mark body, t ≠ .quoted mark body) ∨
    ∃ run q triple after body, IsMark run ∧ isQuoteChar q = true ∧
      text = run ++ (closing q triple ++ after) ∧ (triple = false → ¬ [q, q] <+: after) ∧
      Closes q triple after body rest ∧ t = .quoted (run.map Char.toLower) body := by
  obtain ⟨run, after, htext, hrun, hafter, hne, hall, hdigit, hstop⟩ := exists_word hnumeral hname
  rw [wordToken?, hrun, hafter] at h
  subst htext
  cases hquoted :
    startsQuote after && quoteMarks.contains (String.ofList (run.map Char.toLower)) with
  | true =>
    rw [hquoted, if_pos rfl] at h
    rw [Bool.and_eq_true] at hquoted
    obtain ⟨⟨body, r⟩, hbody, ⟨⟩⟩ := Option.map_eq_some_iff.1 h
    obtain ⟨q, triple, after, hq, rfl, hopen, hcloses⟩ := quotedBody?_eq_some.1 hbody
    exact .inr ⟨run, q, triple, after, body, ⟨hdigit, .inr ⟨hall, hquoted.2⟩⟩, hq, rfl, hopen,
      hcloses, rfl⟩
  | false =>
    rw [hquoted, if_neg Bool.false_ne_true] at h
    obtain ⟨t, ht, ⟨⟩⟩ := Option.map_eq_some_iff.1 h
    refine .inl ⟨⟨run, rfl, noBlank_of_nameToken ht, fun other hsim => ?_⟩, ?_, ?_⟩
    · have hstop' := hsim.any_mayBelongToName hstop
      rw [token?_word hne hall hdigit, wordToken?, takeWhile_append_stop hall hstop',
        dropWhile_append_stop hall hstop', startsQuote_eq, ← hsim.any_head avoidsBlanks_isQuoteChar,
        ← startsQuote_eq, hquoted, if_neg Bool.false_ne_true, ht]
      rfl
    · rw [List.length_append]
      exact Nat.lt_add_of_pos_left (List.length_pos_iff.2 hne)
    · rintro mark body rfl
      unfold nameToken? at ht
      split at ht
      · cases ht
      · split at ht <;> cases ht

/-- A token is a quoted text with its mark, or it has no blanks and ends where it would end in a
similar text. -/
theorem token?_cases {text rest : List Char} {t : Token} (h : token? text = some (t, rest)) :
    (Takes token? text t rest ∧ rest.length < text.length ∧ ∀ mark body, t ≠ .quoted mark body) ∨
    ∃ run q triple after body, IsMark run ∧ isQuoteChar q = true ∧
      text = run ++ (closing q triple ++ after) ∧ (triple = false → ¬ [q, q] <+: after) ∧
      Closes q triple after body rest ∧ t = .quoted (run.map Char.toLower) body := by
  unfold token? at h
  cases hnumeral : startsNumeral text with
  | true =>
    rw [hnumeral, if_pos rfl] at h
    obtain ⟨⟨n, r⟩, hn, ⟨⟩⟩ := Option.map_eq_some_iff.1 h
    refine .inl ⟨(reads_numeral hn).of fun w r hsim hw => ?_, ?_, nofun⟩
    · rw [token?, ← seesSimilar_startsNumeral hsim, hnumeral, if_pos rfl, hw]
      rfl
    · exact length_lt_of_numeral hn
  | false =>
    rw [hnumeral, if_neg Bool.false_ne_true] at h
    cases hquote : startsQuote text with
    | true =>
      rw [hquote, if_pos rfl] at h
      obtain ⟨⟨body, r⟩, hbody, ⟨⟩⟩ := Option.map_eq_some_iff.1 h
      obtain ⟨q, triple, after, hq, rfl, hopen, hcloses⟩ := quotedBody?_eq_some.1 hbody
      exact .inr ⟨[], q, triple, after, body, ⟨rfl, .inl rfl⟩, hq, rfl, hopen, hcloses, rfl⟩
    | false =>
      rw [hquote, if_neg Bool.false_ne_true] at h
      cases hname : text.head?.any mayBelongToName with
      | true =>
        rw [hname, if_pos rfl] at h
        exact wordToken?_cases hnumeral hname h
      | false =>
        rw [hname, if_neg Bool.false_ne_true] at h
        obtain ⟨⟨s, r⟩, hs, ⟨⟩⟩ := Option.map_eq_some_iff.1 h
        refine .inl ⟨(reads_sign hs).of fun w r hsim hw => ?_, ?_, nofun⟩
        · rw [token?, ← seesSimilar_startsNumeral hsim, hnumeral, if_neg Bool.false_ne_true,
            startsQuote_eq, ← hsim.any_head avoidsBlanks_isQuoteChar, ← startsQuote_eq, hquote,
            if_neg Bool.false_ne_true, hsim.any_mayBelongToName hname, if_neg Bool.false_ne_true,
            hw]
          rfl
        · exact length_lt_of_sign hs

end LambdaText.Code
