import LambdaText.Datum.Literal
import LambdaText.Proofs.Code.Constants
import LambdaText.Proofs.Code.Displays
import LambdaText.Proofs.Code.Margins
import LambdaText.Proofs.Code.Rows
import LambdaText.Value.Shown

/-!
# Written forms of data

What constants, tuples, lists and dictionaries are written as, and the tokens that are read from
it.
-/

namespace LambdaText

open LambdaText.Code LambdaText.Text

/-! ### Data that can be written -/

/-- Whether a datum is made of constants by tuples, lists and dictionaries, with at most so many
brackets around each other, no integer with too many digits, and dictionaries with keys that are
different. -/
inductive Datum.IsPlain : Nat → Datum → Prop
  | none (n : Nat) : IsPlain n .none
  | bool (n : Nat) (b : Bool) : IsPlain n (.bool b)
  | int (n : Nat) {i : Int} (h : (Nat.toDigits 10 i.natAbs).length ≤ maxDecimalDigits) :
    IsPlain n (.int i)
  | text (n : Nat) (s : String) : IsPlain n (.text s)
  | tuple {n : Nat} {items : List Datum} (h : ∀ d ∈ items, IsPlain n d) :
    IsPlain (n + 1) (.tuple items)
  | list {n : Nat} {items : List Datum} (h : ∀ d ∈ items, IsPlain n d) :
    IsPlain (n + 1) (.list items)
  | dict {n : Nat} {entries : List (Datum × Datum)} (hkeys : ∀ e ∈ entries, IsPlain n e.1)
    (hvalues : ∀ e ∈ entries, IsPlain n e.2) (hproper : ∀ e ∈ entries, e.1.badKey? = Option.none)
    (hdistinct : entries.Pairwise fun a b => a.1.sameKey b.1 = false) :
    IsPlain (n + 1) (.dict entries)

namespace Datum

mutual

def writtenForm : Datum → String
  | .bool b => if b then "True" else "False"
  | .int i => toString i
  | .text s => quote s
  | .tuple items => tupleText (writtenForms items)
  | .list items => "[" ++ commaList (writtenForms items) ++ "]"
  | .dict entries => "\x7b" ++ commaList (writtenEntries entries) ++ "\x7d"
  | _ => "None"

def writtenForms : List Datum → List String
  | [] => []
  | d :: rest => writtenForm d :: writtenForms rest

def writtenEntries : List (Datum × Datum) → List String
  | [] => []
  | e :: rest => writtenEntry e :: writtenEntries rest

def writtenEntry : Datum × Datum → String
  | (k, d) => writtenForm k ++ ": " ++ writtenForm d

end

mutual

def tokens : Datum → List Token
  | .bool b => [.word (if b then "True" else "False")]
  | .int i =>
    if i < 0 then [.sign "-", .numeral (.int i.natAbs)] else [.numeral (.int i.natAbs)]
  | .text s => [.quoted [] (s.toList.flatMap (escapeChar (chooseQuote s.toList)))]
  | .tuple items => .sign "(" :: (tupleTokens (tokenRows items) ++ [.sign ")"])
  | .list items => .sign "[" :: (commaTokens (tokenRows items) ++ [.sign "]"])
  | .dict entries => .sign "\x7b" :: (commaTokens (entryRows entries) ++ [.sign "\x7d"])
  | _ => [.word "None"]

/-- The tokens of written data, one by one. -/
def tokenRows : List Datum → List (List Token)
  | [] => []
  | d :: rest => tokens d :: tokenRows rest

def entryRows : List (Datum × Datum) → List (List Token)
  | [] => []
  | e :: rest => entryTokens e :: entryRows rest

def entryTokens : Datum × Datum → List Token
  | (k, d) => tokens k ++ .sign ":" :: tokens d

end

theorem writtenForms_eq (items : List Datum) : writtenForms items = items.map writtenForm := by
  induction items with
  | nil => rfl
  | cons d items ih => rw [writtenForms, ih, List.map_cons]

theorem writtenEntries_eq (entries : List (Datum × Datum)) :
    writtenEntries entries = entries.map writtenEntry := by
  induction entries with
  | nil => rfl
  | cons e entries ih => rw [writtenEntries, ih, List.map_cons]

theorem tokenRows_eq (items : List Datum) : tokenRows items = items.map tokens := by
  induction items with
  | nil => rfl
  | cons d items ih => rw [tokenRows, ih, List.map_cons]

theorem entryRows_eq (entries : List (Datum × Datum)) :
    entryRows entries = entries.map entryTokens := by
  induction entries with
  | nil => rfl
  | cons e entries ih => rw [entryRows, ih, List.map_cons]

end Datum

namespace Code

/-! ### Reading the tokens -/

/-- Whether a text is read as some tokens where as many brackets may be opened and a sign follows
that may stand behind a written value. -/
def ReadsAs (n : Nat) (text : List Char) (ts : List Token) : Prop :=
  ∀ (x : Lexer) (rest : List Char) (tokens : List Token), x.brackets.length + n ≤ maxBrackets →
    IsBehind rest → (Lexes false x (text ++ rest) tokens ↔
      Lexes false { x with tokens := ts.reverse ++ x.tokens } rest tokens)

variable {n : Nat} {text text' : List Char} {ts ts' : List Token}

theorem readsAs_nil (n : Nat) : ReadsAs n [] [] := fun _ _ _ _ _ => Iff.rfl

theorem readsAs_token {c : Char} {t : Token} (hc : startsToken c = true)
    (htake : ∀ x : Lexer, x.take t = some (x.push t))
    (ht : ∀ rest, IsBehind rest → token? (c :: (text ++ rest)) = some (t, rest))
    (n : Nat) :
    ReadsAs n (c :: text) [t] := by
  intro x rest tokens _ hrest
  rw [List.cons_append, lexes_token hc (ht rest hrest), htake]
  simp [Lexer.push]

theorem isBehind_cons {c : Char} (hc : c ∈ [',', ')', ']', '\x7d', ':']) (rest : List Char) :
    IsBehind (c :: rest) := by
  intro d hd
  cases hd
  exact hc

theorem ReadsAs.comma (h : ReadsAs n text ts) : ReadsAs n (text ++ [',']) (ts ++ [.sign ","]) := by
  intro x rest tokens hx _
  have ht : token? (',' :: rest) = some (.sign ",", rest) := by rfl
  rw [List.append_assoc, List.singleton_append, h x _ tokens hx (isBehind_cons (by decide) _),
    lexes_token rfl ht]
  simp [Lexer.take, Lexer.sign, Lexer.push]

/-- Two texts with a comma or a colon and a blank between them. -/
theorem ReadsAs.append {c : Char} (hc : c = ',' ∨ c = ':') (h : ReadsAs n text ts)
    (h' : ReadsAs n text' ts') :
    ReadsAs n (text ++ c :: ' ' :: text') (ts ++ .sign (String.ofList [c]) :: ts') := by
  intro x rest tokens hx hrest
  have hbehind : IsBehind (c :: ' ' :: (text' ++ rest)) := by
    rcases hc with rfl | rfl <;> exact isBehind_cons (by decide) _
  have hstarts : startsToken c = true := by rcases hc with rfl | rfl <;> rfl
  have ht : token? (c :: ' ' :: (text' ++ rest)) =
      some (.sign (String.ofList [c]), ' ' :: (text' ++ rest)) := by
    rcases hc with rfl | rfl <;> rfl
  have htake (y : Lexer) : y.take (.sign (String.ofList [c])) =
      some (y.push (.sign (String.ofList [c]))) := by
    rcases hc with rfl | rfl <;> rfl
  rw [List.append_assoc, List.cons_append, List.cons_append, h x _ tokens hx hbehind,
    lexes_token hstarts ht, htake]
  simp only [Option.some.injEq, exists_eq_left', Lexer.push, lexes_blank (.inl rfl)]
  refine (h' _ rest tokens ?_ hrest).trans ?_
  · exact hx
  · simp

/-- The brackets that data are written in. -/
def bracketPairs : List (Char × Char) := [('(', ')'), ('[', ']'), ('\x7b', '\x7d')]

theorem take_open {c d : Char} (hc : (c, d) ∈ bracketPairs) {x : Lexer}
    (hx : x.brackets.length < maxBrackets) : x.take (.sign (String.ofList [c])) =
      some { x.push (.sign (String.ofList [c])) with brackets := d :: x.brackets } := by
  simp only [bracketPairs, List.mem_cons, Prod.mk.injEq, List.not_mem_nil, or_false] at hc
  rcases hc with ⟨rfl, rfl⟩ | ⟨rfl, rfl⟩ | ⟨rfl, rfl⟩ <;> exact if_pos hx

theorem take_close {c d : Char} (hc : (c, d) ∈ bracketPairs) (brackets : List Char)
    (margins : List (Nat × Nat)) (tokens : List Token) :
    Lexer.take ⟨d :: brackets, margins, tokens⟩ (.sign (String.ofList [d])) =
      some ⟨brackets, margins, .sign (String.ofList [d]) :: tokens⟩ := by
  simp only [bracketPairs, List.mem_cons, Prod.mk.injEq, List.not_mem_nil, or_false] at hc
  rcases hc with ⟨rfl, rfl⟩ | ⟨rfl, rfl⟩ | ⟨rfl, rfl⟩ <;> rfl

/-- Brackets around a text. -/
theorem ReadsAs.enclose {c d : Char} (hc : (c, d) ∈ bracketPairs) (h : ReadsAs n text ts) :
    ReadsAs (n + 1) (c :: (text ++ [d]))
      (.sign (String.ofList [c]) :: (ts ++ [.sign (String.ofList [d])])) := by
  intro x rest tokens hx _
  have hpairs : ∀ p ∈ bracketPairs, startsToken p.1 = true ∧ startsToken p.2 = true ∧
      p.2 ∈ [',', ')', ']', '\x7d', ':'] := by decide
  obtain ⟨hopens, hcloses, hbehind⟩ := hpairs _ hc
  have hopen (after : List Char) :
      token? (c :: after) = some (.sign (String.ofList [c]), after) := by
    simp only [bracketPairs, List.mem_cons, Prod.mk.injEq, List.not_mem_nil, or_false] at hc
    rcases hc with ⟨rfl, rfl⟩ | ⟨rfl, rfl⟩ | ⟨rfl, rfl⟩ <;> rfl
  have hclose : token? (d :: rest) = some (.sign (String.ofList [d]), rest) := by
    simp only [bracketPairs, List.mem_cons, Prod.mk.injEq, List.not_mem_nil, or_false] at hc
    rcases hc with ⟨rfl, rfl⟩ | ⟨rfl, rfl⟩ | ⟨rfl, rfl⟩ <;> rfl
  have hlength : x.brackets.length < maxBrackets := by omega
  rw [List.cons_append, List.append_assoc, List.singleton_append, lexes_token hopens (hopen _),
    take_open hc hlength]
  simp only [Option.some.injEq, exists_eq_left', Lexer.push]
  rw [h _ _ tokens (by simp only [List.length_cons]; omega) (isBehind_cons hbehind _),
    lexes_token hcloses hclose, take_close hc]
  simp

/-- Texts with commas between them. -/
theorem readsAs_row {texts : List (List Char)} {rows : List (List Token)}
    (h : List.Forall₂ (ReadsAs n) texts rows) :
    ReadsAs n (List.intercalate [',', ' '] texts) (commaTokens rows) := by
  induction h with
  | nil => exact readsAs_nil n
  | cons hfirst hrest ih =>
    cases hrest with
    | nil => simpa [commaTokens] using hfirst
    | cons hsecond hrest =>
      simpa [commaTokens, List.intercalate_cons_cons] using hfirst.append (.inl rfl) ih

/-- Whether a token is more than the start or the end of a line. -/
def isContent : Token → Bool
  | .newline | .indent | .dedent => false
  | _ => true

theorem finish_content {t : Token} (ht : isContent t = true) (ts : List Token) :
    Lexer.finish ⟨[], [(0, 0)], t :: ts⟩ = some (ts.reverse ++ [t, .newline]) := by
  cases t with
  | newline => cases ht
  | indent => cases ht
  | dedent => cases ht
  | _ => simp [Lexer.finish]

theorem ReadsAs.tokens?_eq {t : Token} (h : ReadsAs maxBrackets text (ts ++ [t]))
    (hcontent : isContent t = true) (hstart : text.head?.any startsToken = true)
    (hbreak : '\r' ∉ text) : tokens? text = some (ts ++ [t, .newline]) := by
  rw [tokens?_eq_some, unifyBreaks_line hbreak]
  cases text with
  | nil => cases hstart
  | cons c rest =>
    have hc : startsToken c = true := hstart
    have hstops : c ≠ '#' ∧ c ≠ '\n' ∧ opensMargin c = false := by
      simp only [startsToken, Bool.not_eq_true', Bool.or_eq_false_iff, beq_eq_false_iff_ne] at hc
      simp only [opensMargin, Bool.or_eq_false_iff, beq_eq_false_iff_ne]
      tauto
    obtain ⟨hsharp, hfeed, hmargin⟩ := hstops
    have hstep : Lexer.start.step true (c :: rest) = some (false, Lexer.start, c :: rest) := by
      have hread := margin_stop (show (c :: rest).head?.any opensMargin = false from hmargin) 0 0 0
      rw [Lexer.step, lineStep_of_margin _ hread, Lexer.marginStep, if_neg hsharp, if_neg hfeed]
      rfl
    have hread := h Lexer.start [] (ts ++ [t, .newline]) (Nat.le_of_eq (Nat.zero_add _))
      (by simp [IsBehind])
    rw [List.append_nil] at hread
    rw [lexes_iff_of_step hstep, hread, lexes_iff_of_no_step rfl]
    have hfinish := finish_content hcontent ts.reverse
    simpa [Lexer.ended, Lexer.start] using hfinish

/-! ### Constants -/

theorem readsAs_word {w : String} (hw : w ∈ ["None", "True", "False"]) (n : Nat) :
    ReadsAs n w.toList [.word w] := by
  have hwords : ∀ w ∈ ["None", "True", "False"], w.toList.all mayBelongToName = true ∧
      w.toList.head?.any isAsciiDigit = false ∧ w.toList.head?.any startsToken = true ∧
      isReserved w = true := by decide
  obtain ⟨hall, hdigit, hstarts, hreserved⟩ := hwords w hw
  rw [List.all_eq_true] at hall
  obtain ⟨c, text, hc⟩ : ∃ c text, w.toList = c :: text := by
    cases htext : w.toList with
    | nil =>
      rw [htext] at hstarts
      cases hstarts
    | cons c text => exact ⟨c, text, rfl⟩
  have htoken (rest : List Char) (hrest : IsBehind rest) :
      token? (w.toList ++ rest) = some (.word w, rest) := by
    have hstop : rest.head?.any mayBelongToName = false := hrest.any (by decide)
    have hquote : startsQuote rest = false := by
      rw [startsQuote_eq]
      exact hrest.any (by decide)
    rw [token?_word (by simp [hc]) hall hdigit, wordToken?, takeWhile_append_stop hall hstop,
      dropWhile_append_stop hall hstop]
    simp [hquote, nameToken?, hreserved]
  rw [hc] at htoken hstarts ⊢
  exact readsAs_token hstarts (fun _ => rfl) htoken n

theorem startsToken_of_isAsciiDigit {d : Char} (hd : isAsciiDigit d = true) :
    startsToken d = true := by
  by_contra h
  rcases cases_of_startsToken (Bool.eq_false_of_not_eq_true h) with
    (rfl | rfl | rfl) | rfl | rfl | rfl <;> cases hd

theorem readsAs_natural {k : Nat} (hk : (Nat.toDigits 10 k).length ≤ maxDecimalDigits) (n : Nat) :
    ReadsAs n (Nat.toDigits 10 k) [.numeral (.int k)] := by
  have htoken (rest : List Char) (hrest : IsBehind rest) := token?_toDigits hk hrest
  cases hds : Nat.toDigits 10 k with
  | nil => exact absurd hds Nat.toDigits_ne_nil
  | cons d ds =>
    have hd : isAsciiDigit d = true := isAsciiDigit_of_mem_toDigits (n := k) (by simp [hds])
    rw [hds] at htoken
    exact readsAs_token (startsToken_of_isAsciiDigit hd) (fun _ => rfl) htoken n

theorem token?_minus {d : Char} (hd : isAsciiDigit d = true) (rest : List Char) :
    token? ('-' :: d :: rest) = some (.sign "-", d :: rest) := by
  have hne : d ≠ '>' ∧ d ≠ '=' := by
    constructor <;>
      · rintro rfl
        cases hd
  have hfind : (signs.find? fun s => s.toList.isPrefixOf ('-' :: d :: rest)) = some "-" := by
    simp [signs, List.isPrefixOf, hne.1.symm, hne.2.symm]
  have hsign : sign? ('-' :: d :: rest) = some ("-", d :: rest) := by
    rw [sign?, hfind]
    rfl
  have htoken : token? ('-' :: d :: rest) = (sign? ('-' :: d :: rest)).map fun found =>
      (.sign found.1, found.2) := rfl
  rw [htoken, hsign]
  rfl

theorem toList_toString_neg {i : Int} (hneg : i < 0) :
    (toString i).toList = '-' :: Nat.toDigits 10 i.natAbs := by
  obtain ⟨k, rfl⟩ := Int.eq_negSucc_of_lt_zero hneg
  change ("-" ++ (k + 1).repr).toList = _
  rw [String.toList_append, Nat.toList_repr]
  rfl

theorem toList_toString_natural {i : Int} (hneg : ¬ i < 0) :
    (toString i).toList = Nat.toDigits 10 i.natAbs := by
  obtain ⟨k, rfl⟩ := Int.eq_ofNat_of_zero_le (Int.not_lt.1 hneg)
  exact Nat.toList_repr

theorem readsAs_integer {i : Int} (hi : (Nat.toDigits 10 i.natAbs).length ≤ maxDecimalDigits)
    (n : Nat) : ReadsAs n (toString i).toList (Datum.int i).tokens := by
  have hnatural := readsAs_natural hi n
  rw [Datum.tokens]
  by_cases hneg : i < 0
  · obtain ⟨d, ds, hds⟩ := List.exists_cons_of_ne_nil (Nat.toDigits_ne_nil (n := i.natAbs) (b := 10))
    have hd : isAsciiDigit d = true := isAsciiDigit_of_mem_toDigits (n := i.natAbs) (by simp [hds])
    rw [if_pos hneg, toList_toString_neg hneg]
    intro x rest tokens hx hrest
    have htake : x.take (.sign "-") = some (x.push (.sign "-")) := rfl
    have hminus := token?_minus hd (ds ++ rest)
    rw [← List.cons_append, ← hds] at hminus
    rw [List.cons_append, lexes_token rfl hminus, htake]
    simp only [Option.some.injEq, exists_eq_left', Lexer.push]
    exact hnatural _ rest tokens hx hrest
  · rw [if_neg hneg, toList_toString_natural hneg]
    exact hnatural

theorem startsToken_chooseQuote (text : List Char) : startsToken (chooseQuote text) = true := by
  unfold chooseQuote
  split <;> rfl

theorem readsAs_text (s : String) (n : Nat) :
    ReadsAs n (quote s).toList (Datum.text s).tokens := by
  have hq : isQuoteChar (chooseQuote s.toList) = true := isQuoteChar_chooseQuote _
  have htoken (rest : List Char) (hrest : IsBehind rest) :=
    token?_quoted_text s.toList (show rest.head?.any isQuoteChar = false from
      hrest.any (by decide))
  rw [quote, String.toList_ofList, Datum.tokens]
  exact readsAs_token (startsToken_chooseQuote _) (fun _ => rfl) htoken n

end Code

/-! ### Data -/

open Code

theorem commaList_toList (texts : List String) :
    (commaList texts).toList = List.intercalate [',', ' '] (texts.map String.toList) :=
  String.toList_intercalate

theorem readsAs_items {n : Nat} {items : List Datum}
    (h : ∀ d ∈ items, ReadsAs n d.writtenForm.toList d.tokens) :
    ReadsAs n (commaList (Datum.writtenForms items)).toList
      (commaTokens (Datum.tokenRows items)) := by
  rw [commaList_toList, Datum.writtenForms_eq, Datum.tokenRows_eq, List.map_map]
  refine readsAs_row ?_
  rw [List.forall₂_map_left_iff, List.forall₂_map_right_iff, List.forall₂_same]
  exact h

theorem readsAs_entries {n : Nat} {entries : List (Datum × Datum)}
    (h : ∀ e ∈ entries, ReadsAs n (Datum.writtenEntry e).toList (Datum.entryTokens e)) :
    ReadsAs n (commaList (Datum.writtenEntries entries)).toList
      (commaTokens (Datum.entryRows entries)) := by
  rw [commaList_toList, Datum.writtenEntries_eq, Datum.entryRows_eq, List.map_map]
  refine readsAs_row ?_
  rw [List.forall₂_map_left_iff, List.forall₂_map_right_iff, List.forall₂_same]
  exact h

theorem readsAs_tuple {n : Nat} {items : List Datum}
    (h : ∀ d ∈ items, ReadsAs n d.writtenForm.toList d.tokens) :
    ReadsAs (n + 1) (tupleText (Datum.writtenForms items)).toList (Datum.tuple items).tokens := by
  have hparens {text : List Char} {ts : List Token} (hin : ReadsAs n text ts) :
      ReadsAs (n + 1) ('(' :: (text ++ [')'])) (.sign "(" :: (ts ++ [.sign ")"])) :=
    hin.enclose (by decide)
  have hrow := hparens (readsAs_items h)
  cases items with
  | nil => exact hrow
  | cons first rest =>
    cases rest with
    | nil =>
      have honly := hparens (h first (by simp)).comma
      simpa [tupleText, Datum.tokens, tupleTokens, Datum.writtenForms, Datum.tokenRows]
        using honly
    | cons second rest =>
      simpa [tupleText, Datum.tokens, tupleTokens, Datum.writtenForms, Datum.tokenRows]
        using hrow

theorem Datum.IsPlain.readsAs {n : Nat} {d : Datum} (h : d.IsPlain n) :
    ReadsAs n d.writtenForm.toList d.tokens := by
  induction h with
  | none n => exact readsAs_word (by decide) n
  | bool n b => cases b <;> exact readsAs_word (by decide) n
  | int n hi => exact readsAs_integer hi n
  | text n s => exact readsAs_text s n
  | tuple _ ih => exact readsAs_tuple ih
  | list _ ih =>
    rw [writtenForm, String.toList_append, String.toList_append]
    exact (readsAs_items ih).enclose (c := '[') (d := ']') (by decide)
  | @dict n entries _ _ _ _ ihkeys ihvalues =>
    have hentries : ∀ e ∈ entries, ReadsAs n (writtenEntry e).toList (entryTokens e) := by
      rintro ⟨k, d⟩ he
      rw [writtenEntry, entryTokens, String.toList_append, String.toList_append,
        List.append_assoc]
      exact (ihkeys _ he).append (.inr rfl) (ihvalues _ he)
    rw [writtenForm, String.toList_append, String.toList_append]
    exact (readsAs_entries hentries).enclose (c := '\x7b') (d := '\x7d') (by decide)

/-! ### Characters of written forms -/

namespace Datum

theorem isPrintable_of_mem_commaList {texts : List String}
    (h : ∀ text ∈ texts, text.toList.all isPrintable = true) :
    (commaList texts).toList.all isPrintable = true := by
  rw [commaList_toList]
  induction texts with
  | nil => rfl
  | cons text texts ih =>
    rw [List.forall_mem_cons] at h
    cases texts with
    | nil => simpa using h.1
    | cons next texts =>
      have hrest := ih h.2
      simp only [List.map_cons, List.intercalate_cons_cons, List.all_append, Bool.and_eq_true]
        at hrest ⊢
      exact ⟨⟨h.1, by decide⟩, hrest⟩

theorem isPrintable_toDigits (n : Nat) : (Nat.toDigits 10 n).all isPrintable = true := by
  rw [List.all_eq_true]
  intro c hc
  have hdigit := isAsciiDigit_of_mem_toDigits hc
  rw [isAsciiDigit, Bool.and_eq_true, decide_eq_true_eq, decide_eq_true_eq] at hdigit
  have hlow : 48 ≤ c.toNat := UInt32.le_iff_toNat_le.1 hdigit.1
  have hhigh : c.toNat ≤ 57 := UInt32.le_iff_toNat_le.1 hdigit.2
  rw [isPrintable, if_pos (by omega), Bool.and_eq_true, decide_eq_true_eq, decide_eq_true_eq]
  omega

theorem isPrintable_int (i : Int) : (toString i).toList.all isPrintable = true := by
  by_cases hneg : i < 0
  · rw [toList_toString_neg hneg, List.all_cons, isPrintable_toDigits]
    rfl
  · rw [toList_toString_natural hneg, isPrintable_toDigits]

theorem isPrintable_quoted (text : List Char) : (quoted text).all isPrintable = true := by
  have hq := isQuoteChar_chooseQuote text
  have hquote := isPrintable_of_isQuoteChar hq
  rw [List.all_eq_true]
  intro c hc
  simp only [quoted, List.cons_append, List.mem_cons, List.mem_append, List.mem_flatMap,
    List.not_mem_nil, or_false] at hc
  rcases hc with rfl | ⟨d, -, hd⟩ | rfl
  · exact hquote
  · exact isPrintable_of_mem_escapeChar hq hd
  · exact hquote

theorem isPrintable_tupleText {texts : List String}
    (h : ∀ text ∈ texts, text.toList.all isPrintable = true) :
    (tupleText texts).toList.all isPrintable = true := by
  have hrow := isPrintable_of_mem_commaList h
  cases texts with
  | nil => decide
  | cons first rest =>
    cases rest with
    | nil => simpa [tupleText, h first (by simp)] using ⟨by decide, by decide⟩
    | cons second rest => simpa [tupleText, hrow] using ⟨by decide, by decide⟩

theorem IsPlain.isPrintable_writtenForm {n : Nat} {d : Datum} (h : d.IsPlain n) :
    d.writtenForm.toList.all isPrintable = true := by
  induction h with
  | none => decide
  | bool _ b => cases b <;> decide
  | @int _ i _ => exact isPrintable_int i
  | text _ s =>
    rw [writtenForm, quote, String.toList_ofList]
    exact isPrintable_quoted s.toList
  | tuple _ ih =>
    rw [writtenForm, writtenForms_eq]
    exact isPrintable_tupleText (List.forall_mem_map.2 ih)
  | list _ ih =>
    rw [writtenForm, writtenForms_eq]
    have hitems := isPrintable_of_mem_commaList (List.forall_mem_map.2 ih)
    simpa [hitems] using ⟨by decide, by decide⟩
  | @dict _ entries _ _ _ _ ihkeys ihvalues =>
    have hcolon : ": ".toList.all isPrintable = true := by decide
    have hentry : ∀ e ∈ entries, (writtenEntry e).toList.all isPrintable = true := by
      rintro ⟨k, d⟩ he
      rw [writtenEntry, String.toList_append, String.toList_append, List.all_append,
        List.all_append, ihkeys _ he, ihvalues _ he, hcolon]
      rfl
    rw [writtenForm, writtenEntries_eq]
    have hitems := isPrintable_of_mem_commaList (List.forall_mem_map.2 hentry)
    simpa [hitems] using ⟨by decide, by decide⟩

theorem startsToken_writtenForm (d : Datum) :
    d.writtenForm.toList.head?.any startsToken = true := by
  cases d with
  | bool b => cases b <;> decide
  | int i =>
    rw [writtenForm]
    by_cases hneg : i < 0
    · rw [toList_toString_neg hneg]
      rfl
    · obtain ⟨c, ds, hds⟩ :=
        List.exists_cons_of_ne_nil (Nat.toDigits_ne_nil (n := i.natAbs) (b := 10))
      rw [toList_toString_natural hneg, hds]
      exact startsToken_of_isAsciiDigit
        (isAsciiDigit_of_mem_toDigits (hds ▸ List.mem_cons_self : c ∈ Nat.toDigits 10 i.natAbs))
  | text s =>
    rw [writtenForm, quote, String.toList_ofList]
    exact startsToken_chooseQuote s.toList
  | tuple items =>
    rw [writtenForm]
    cases writtenForms items with
    | nil => decide
    | cons first rest => cases rest <;> simp [tupleText, startsToken]
  | list items =>
    rw [writtenForm]
    simp [startsToken]
  | dict entries =>
    rw [writtenForm]
    simp [startsToken]
  | _ =>
    simp only [writtenForm]
    rfl

theorem exists_last_token (d : Datum) :
    ∃ front t, d.tokens = front ++ [t] ∧ isContent t = true := by
  cases d with
  | int i =>
    rw [tokens]
    split
    · exact ⟨[.sign "-"], _, rfl, rfl⟩
    · exact ⟨[], _, rfl, rfl⟩
  | tuple items => exact ⟨.sign "(" :: tupleTokens (tokenRows items), _, rfl, rfl⟩
  | list items => exact ⟨.sign "[" :: commaTokens (tokenRows items), _, rfl, rfl⟩
  | dict entries => exact ⟨.sign "\x7b" :: commaTokens (entryRows entries), _, rfl, rfl⟩
  | _ => exact ⟨[], _, rfl, rfl⟩

theorem IsPlain.tokens?_writtenForm {d : Datum} (h : d.IsPlain maxBrackets) :
    tokens? d.writtenForm.toList = some (d.tokens ++ [.newline]) := by
  obtain ⟨front, t, htokens, hcontent⟩ := d.exists_last_token
  have hread := h.readsAs
  rw [htokens] at hread ⊢
  rw [hread.tokens?_eq hcontent d.startsToken_writtenForm, List.append_assoc, List.singleton_append]
  intro hbreak
  have hprintable := List.all_eq_true.1 h.isPrintable_writtenForm _ hbreak
  exact absurd hprintable (by decide)

end Datum

end LambdaText
