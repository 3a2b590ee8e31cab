import LambdaText.Code.Quotation
import LambdaText.Proofs.Code.Tokens
import LambdaText.Text.Quoted
import Mathlib.Data.List.Basic
import Mathlib.Tactic.Ring

/-!
# Reading constants back

The written form of a text or of a natural number is one token, and denotes the text or the number.
-/

namespace LambdaText.Code

open LambdaText.Text

/-! ### Hexadecimal digits -/

theorem hexValue?_hexDigit : ∀ n < 16, hexValue? (hexDigit n) = some n := by decide

theorem length_hexPadded (width n : Nat) : (hexPadded width n).length = width := by
  simp [hexPadded]

theorem hexPadded_succ (width n : Nat) :
    hexPadded (width + 1) n = hexDigit (n / Nat.pow 16 width % 16) :: hexPadded width n := by
  simp [hexPadded, List.range_succ]

theorem isHexDigit_of_mem_hexPadded {width n : Nat} {c : Char} (h : c ∈ hexPadded width n) :
    isHexDigit c = true := by
  obtain ⟨k, -, rfl⟩ := List.mem_map.1 h
  rw [isHexDigit, hexValue?_hexDigit _ (Nat.mod_lt _ (by decide))]
  rfl

/-- What has been read of a number stands before what its last digits denote. -/
theorem foldl_hexPadded (width n start : Nat) :
    (hexPadded width n).foldl (fun n c => 16 * n + (hexValue? c).getD 0) start =
      start * 16 ^ width + n % 16 ^ width := by
  induction width generalizing start with
  | zero => simp [hexPadded, Nat.mod_one]
  | succ width ih =>
    have hdigit : hexValue? (hexDigit (n / 16 ^ width % 16)) = some (n / 16 ^ width % 16) :=
      hexValue?_hexDigit _ (Nat.mod_lt _ (by decide))
    have hmod : n % 16 ^ (width + 1) = n % 16 ^ width + 16 ^ width * (n / 16 ^ width % 16) := by
      rw [Nat.pow_succ, Nat.mod_mul]
    rw [hexPadded_succ, List.foldl_cons, ih]
    change (16 * start + (hexValue? (hexDigit (n / 16 ^ width % 16))).getD 0) * 16 ^ width + _ = _
    rw [hdigit, Option.getD_some, hmod]
    ring

theorem hexPoint?_hexPadded {width n : Nat} (hwidth : n < 16 ^ width) (hn : n < 0x110000) :
    hexPoint? width (hexPadded width n) = some n := by
  have hvalue : digitsValue 16 (hexPadded width n) = n := by
    rw [digitsValue, foldl_hexPadded, Nat.zero_mul, Nat.zero_add, Nat.mod_eq_of_lt hwidth]
  have hdigits : (hexPadded width n).all isHexDigit = true :=
    List.all_eq_true.2 fun c hc => isHexDigit_of_mem_hexPadded hc
  rw [hexPoint?, hvalue, if_pos ⟨length_hexPadded width n, hdigits, hn⟩]

/-! ### Escapes -/

theorem toNat_lt_of_char (c : Char) : c.toNat < 0x110000 := by
  rcases c.valid with h | h
  · exact Nat.lt_trans h (by decide)
  · exact h.2

/-- An escape of hexadecimal digits is read as its character. -/
theorem unescape_hex {letter : Char} {width n fuel : Nat} {rest : List Char}
    (hletter : (letter, width) ∈ [('x', 2), ('u', 4), ('U', 8)]) (hwidth : n < 16 ^ width)
    (hn : n < 0x110000) :
    unescape true (fuel + 1) ('\\' :: letter :: (hexPadded width n ++ rest)) =
      (unescape true fuel rest).map (n :: ·) := by
  have hdrop : (hexPadded width n ++ rest).drop width = rest :=
    List.drop_left' (length_hexPadded width n)
  have htake : (hexPadded width n ++ rest).take width = hexPadded width n :=
    List.take_left' (length_hexPadded width n)
  have hpoint := hexPoint?_hexPadded hwidth hn
  simp only [List.mem_cons, Prod.mk.injEq, List.not_mem_nil, or_false] at hletter
  rcases hletter with ⟨rfl, rfl⟩ | ⟨rfl, rfl⟩ | ⟨rfl, rfl⟩ <;>
    · simp only [unescape, simpleEscape?, hexEscapeWidth?, htake, hdrop, hpoint]
      cases unescape true fuel rest <;> rfl

/-- An escaped character is read as itself, whatever stands behind it. -/
theorem unescape_escapeChar (q : Char) (hq : isQuoteChar q = true) (c : Char) (rest : List Char)
    (fuel : Nat) : unescape true (fuel + 1) (escapeChar q c ++ rest) =
      (unescape true fuel rest).map (c.toNat :: ·) := by
  have hquote : q = '\'' ∨ q = '"' := by simpa [isQuoteChar] using hq
  unfold escapeChar
  split
  · next h =>
    rcases h with rfl | rfl
    · rcases hquote with rfl | rfl <;> simp [unescape, simpleEscape?]
    · simp [unescape, simpleEscape?]
  split
  · next h =>
    subst h
    simp [unescape, simpleEscape?]
  split
  · next h =>
    subst h
    simp [unescape, simpleEscape?]
  split
  · next h =>
    subst h
    simp [unescape, simpleEscape?]
  split
  · next h _ _ _ _ =>
    rw [not_or] at h
    rw [List.singleton_append, unescape]
    simp [h.2]
  split
  · next h => exact unescape_hex (by simp) h (toNat_lt_of_char c)
  split
  · next h => exact unescape_hex (by simp) h (toNat_lt_of_char c)
  · exact unescape_hex (by simp) (Nat.lt_trans (toNat_lt_of_char c) (by decide))
      (toNat_lt_of_char c)

theorem isPrintable_of_isQuoteChar {q : Char} (hq : isQuoteChar q = true) :
    isPrintable q = true := by
  have hquote : q = '\'' ∨ q = '"' := by simpa [isQuoteChar] using hq
  rcases hquote with rfl | rfl <;> decide

theorem isPrintable_of_mem_escapeChar {q : Char} (hq : isQuoteChar q = true) {c d : Char}
    (h : d ∈ escapeChar q c) : isPrintable d = true := by
  have hdigits : ∀ k < 16, isPrintable (hexDigit k) = true := by decide
  have hhex {width n : Nat} (hd : d ∈ hexPadded width n) : isPrintable d = true := by
    obtain ⟨k, -, rfl⟩ := List.mem_map.1 hd
    exact hdigits _ (Nat.mod_lt _ (by decide))
  have hletters : ∀ d ∈ ['\\', 'n', 'r', 't', 'x', 'u', 'U'], isPrintable d = true :=
    List.all_eq_true.1 (by decide)
  have hescape {letter : Char} {rest : List Char} (hletter : letter ∈ ['n', 'r', 't', 'x', 'u', 'U'])
      (hrest : d ∈ rest → isPrintable d = true) (hd : d ∈ '\\' :: letter :: rest) :
      isPrintable d = true := by
    rcases List.mem_cons.1 hd with rfl | hd
    · exact hletters _ (by simp)
    · rcases List.mem_cons.1 hd with rfl | hd
      · exact hletters _ (List.mem_cons_of_mem _ hletter)
      · exact hrest hd
  unfold Text.escapeChar at h
  split at h
  · next hc =>
    rcases List.mem_cons.1 h with rfl | hd
    · exact hletters _ (by simp)
    · rw [List.mem_singleton.1 hd]
      rcases hc with rfl | rfl
      · exact isPrintable_of_isQuoteChar hq
      · exact hletters _ (by simp)
  repeat' split at h
  · exact hescape (by simp) (by simp) h
  · exact hescape (by simp) (by simp) h
  · exact hescape (by simp) (by simp) h
  · next hprintable =>
    rw [List.mem_singleton.1 h]
    exact hprintable
  · exact hescape (by simp) hhex h
  · exact hescape (by simp) hhex h
  · exact hescape (by simp) hhex h

theorem length_escapeChar_pos (q c : Char) : 0 < (escapeChar q c).length := by
  unfold escapeChar
  repeat' split
  all_goals simp

theorem unescape_escaped {q : Char} (hq : isQuoteChar q = true) {text : List Char} {fuel : Nat}
    (hfuel : text.length ≤ fuel) :
    unescape true fuel (text.flatMap (escapeChar q)) = some (text.map Char.toNat) := by
  induction text generalizing fuel with
  | nil => cases fuel <;> rfl
  | cons c text ih =>
    obtain ⟨fuel, rfl⟩ := Nat.exists_eq_add_of_le' (Nat.le_trans (Nat.le_add_left 1 _) hfuel)
    rw [List.flatMap_cons, unescape_escapeChar q hq, ih (Nat.le_of_succ_le_succ hfuel)]
    rfl

/-- What is written between quotes denotes the text. -/
theorem textPoints?_escaped {q : Char} (hq : isQuoteChar q = true) (text : List Char) :
    textPoints? false (text.flatMap (escapeChar q)) = some (text.map Char.toNat) := by
  have hlength : text.length ≤ (text.flatMap (escapeChar q)).length := by
    induction text with
    | nil => exact Nat.zero_le _
    | cons c text ih =>
      have := length_escapeChar_pos q c
      rw [List.flatMap_cons, List.length_append, List.length_cons]
      omega
  rw [textPoints?, if_neg Bool.false_ne_true, unescape_escaped hq hlength]

theorem isSurrogate_toNat (c : Char) : isSurrogate c.toNat = false := by
  refine decide_eq_false fun hc => ?_
  rcases c.valid with h | h
  · exact absurd hc.1 (Nat.not_le.2 h)
  · exact absurd h.1 (Nat.not_lt.2 hc.2)

/-- The code points of characters make the text of these characters. -/
theorem ofPoints_toNat (text : List Char) :
    Constant.ofPoints (text.map Char.toNat) = .text (String.ofList text) := by
  have hnone : (text.map Char.toNat).any isSurrogate = false := by
    rw [List.any_map, List.any_eq_false]
    exact fun c _ => by simp [isSurrogate_toNat]
  have hchars : (text.map Char.toNat).map Char.ofNat = text := by
    rw [List.map_map]
    exact (List.map_congr_left fun c _ => Char.ofNat_toNat c).trans (List.map_id text)
  rw [Constant.ofPoints, hnone, if_neg Bool.false_ne_true, hchars]

/-! ### The token of a written text -/

theorem isQuoteChar_chooseQuote (text : List Char) : isQuoteChar (chooseQuote text) = true := by
  unfold chooseQuote
  split <;> rfl

/-- Characters that have no meaning within quotes. -/
def IsPlainWithin (q c : Char) : Prop := c ≠ '\\' ∧ c ≠ q ∧ c ≠ '\n'

theorem Closes.append {q : Char} {front text body rest : List Char}
    (hfront : ∀ c ∈ front, IsPlainWithin q c) (h : Closes q false text body rest) :
    Closes q false (front ++ text) (front ++ body) rest := by
  induction front with
  | nil => exact h
  | cons c front ih =>
    obtain ⟨⟨hslash, hquote, hline⟩, hfront⟩ := List.forall_mem_cons.1 hfront
    refine .char hslash (fun hopen => ?_) (fun _ => hline) (ih hfront)
    exact hquote (List.cons_prefix_cons.1 hopen).1.symm

theorem isPlainWithin_hexPadded {q : Char} (hq : isQuoteChar q = true) {width n : Nat} :
    ∀ c ∈ hexPadded width n, IsPlainWithin q c := by
  have hdigits : ∀ k < 16, hexDigit k ≠ '\\' ∧ hexDigit k ≠ '\'' ∧ hexDigit k ≠ '"' ∧
      hexDigit k ≠ '\n' := by decide
  intro c hc
  obtain ⟨k, -, rfl⟩ := List.mem_map.1 hc
  obtain ⟨hslash, hsingle, hdouble, hline⟩ := hdigits _ (Nat.mod_lt (n / Nat.pow 16 k) (by decide))
  have hquote : q = '\'' ∨ q = '"' := by simpa [isQuoteChar] using hq
  refine ⟨hslash, ?_, hline⟩
  rcases hquote with rfl | rfl
  · exact hsingle
  · exact hdouble

/-- An escaped character neither closes the quotes nor ends the line. -/
theorem Closes.escapeChar {q : Char} (hq : isQuoteChar q = true) (c : Char)
    {text body rest : List Char} (h : Closes q false text body rest) :
    Closes q false (escapeChar q c ++ text) (escapeChar q c ++ body) rest := by
  unfold Text.escapeChar
  split
  · exact .escape c h
  split
  · exact .escape 'n' h
  split
  · exact .escape 'r' h
  split
  · exact .escape 't' h
  split
  · next hquote hline _ _ _ =>
    rw [not_or] at hquote
    have hplain : ∀ d ∈ [c], IsPlainWithin q d :=
      List.forall_mem_singleton.2 ⟨hquote.2, hquote.1, hline⟩
    exact .append hplain h
  split
  · exact .escape 'x' (.append (isPlainWithin_hexPadded hq) h)
  split
  · exact .escape 'u' (.append (isPlainWithin_hexPadded hq) h)
  · exact .escape 'U' (.append (isPlainWithin_hexPadded hq) h)

theorem closes_escaped {q : Char} (hq : isQuoteChar q = true) (text rest : List Char) :
    Closes q false (text.flatMap (escapeChar q) ++ q :: rest) (text.flatMap (escapeChar q))
      rest := by
  induction text with
  | nil => exact .done rest
  | cons c text ih =>
    rw [List.flatMap_cons, List.append_assoc]
    exact ih.escapeChar hq c

/-- The written form of a character does not start with the quote. -/
theorem head?_escapeChar {q : Char} (hq : isQuoteChar q = true) (c : Char) :
    (escapeChar q c).head? ≠ some q := by
  have hslash : some '\\' ≠ some q := fun h => ne_slash_of_quote hq (Option.some.inj h).symm
  unfold Text.escapeChar
  split
  · exact hslash
  split
  · exact hslash
  split
  · exact hslash
  split
  · exact hslash
  split
  · next h _ _ _ _ => exact fun hc => h (.inl (Option.some.inj hc))
  split
  · exact hslash
  split <;> exact hslash

/-- The written form of a text is one token, as long as no further quote follows. -/
theorem token?_quoted_text (text : List Char) {rest : List Char}
    (hrest : rest.head?.any isQuoteChar = false) :
    token? (quoted text ++ rest) =
      some (.quoted [] (text.flatMap (escapeChar (chooseQuote text))), rest) := by
  have hq := isQuoteChar_chooseQuote text
  generalize hquote : chooseQuote text = q at hq
  have hopen : ¬ [q, q] <+: text.flatMap (escapeChar q) ++ q :: rest := by
    intro h
    cases text with
    | nil =>
      obtain ⟨-, hnext⟩ := List.cons_prefix_cons.1 h
      cases rest with
      | nil => simp at hnext
      | cons c rest =>
        obtain rfl := (List.cons_prefix_cons.1 hnext).1
        rw [List.head?_cons, Option.any_some, hq] at hrest
        cases hrest
    | cons c text =>
      obtain ⟨d, tail, hd⟩ := List.exists_cons_of_length_pos (length_escapeChar_pos q c)
      rw [List.flatMap_cons, hd] at h
      obtain ⟨rfl, -⟩ := List.cons_prefix_cons.1 h
      exact head?_escapeChar hq c (by rw [hd]; rfl)
  have hmark : IsMark [] := ⟨rfl, .inl rfl⟩
  have htoken := token?_quoted hmark hq (fun _ => hopen) (closes_escaped hq text rest)
  rw [quoted, hquote]
  simpa [closing] using htoken

/-! ### Integers -/

/-- Whether a text is empty or starts with a sign that may stand behind a written value. -/
def IsBehind (rest : List Char) : Prop := ∀ c ∈ rest.head?, c ∈ [',', ')', ']', '\x7d', ':']

/-- No test that fails for all those signs holds in front of such a text. -/
theorem IsBehind.any {rest : List Char} (h : IsBehind rest) {test : Char → Bool}
    (htest : [',', ')', ']', '\x7d', ':'].any test = false) : rest.head?.any test = false := by
  cases rest with
  | nil => rfl
  | cons c rest => exact Bool.eq_false_iff.2 (List.any_eq_false.1 htest c (h c rfl))

theorem endsNumeral_of_isBehind {rest : List Char} (h : IsBehind rest) :
    endsNumeral rest = true := by
  have hname : rest.head?.any mayBelongToName = false := h.any (by decide)
  rw [endsNumeral, Bool.or_eq_true]
  right
  cases rest with
  | nil => rfl
  | cons c rest => simpa using hname

theorem isAsciiDigit_of_mem_toDigits {n : Nat} {c : Char} (h : c ∈ Nat.toDigits 10 n) :
    isAsciiDigit c = true := by
  have hdigit := Nat.isDigit_of_mem_toDigits (by decide) (by decide) h
  simpa [Char.isDigit, isAsciiDigit, Char.le_def] using hdigit

theorem hexValue?_of_isAsciiDigit {c : Char} (h : isAsciiDigit c = true) :
    hexValue? c = some (c.toNat - '0'.toNat) := by
  rw [isAsciiDigit, Bool.and_eq_true, decide_eq_true_eq, decide_eq_true_eq] at h
  rw [hexValue?, if_pos h]

theorem digitsValue_toDigits (n : Nat) : digitsValue 10 (Nat.toDigits 10 n) = n := by
  have hvalue : Nat.ofDigitChars 10 (Nat.toDigits 10 n) 0 = n :=
    Nat.ofDigitChars_toDigits (by decide) (by decide)
  rw [digitsValue]
  refine (List.foldl_ext _ _ _ fun start c hc => ?_).trans hvalue
  rw [hexValue?_of_isAsciiDigit (isAsciiDigit_of_mem_toDigits hc), Option.getD_some]

/-- The first digit of a number is no zero, unless the number is zero. -/
theorem head?_toDigits {n : Nat} (hn : 0 < n) : (Nat.toDigits 10 n).head? ≠ some '0' := by
  induction n using Nat.strong_induction_on with
  | _ n ih =>
    rw [Nat.toDigits_eq_if (by decide)]
    split
    · next hlt =>
      have hdigit : ∀ d < 10, 0 < d → some (Nat.digitChar d) ≠ some '0' := by decide
      exact hdigit n hlt hn
    · next hge =>
      have hhead : (Nat.toDigits 10 (n / 10) ++ [(n % 10).digitChar]).head? =
          (Nat.toDigits 10 (n / 10)).head? :=
        List.head?_append_of_ne_nil _ Nat.toDigits_ne_nil
      rw [hhead]
      exact ih (n / 10) (Nat.div_lt_self hn (by decide)) (Nat.div_pos (Nat.not_lt.1 hge) (by decide))

theorem digitRun_append {ds rest : List Char} (hne : ds ≠ [])
    (hdigits : ∀ c ∈ ds, isAsciiDigit c = true)
    (hrest : rest.head?.any (fun c => isAsciiDigit c || c == '_') = false) :
    digitRun isAsciiDigit (ds ++ rest) = some (ds, rest) := by
  have hmore (ds : List Char) (hdigits : ∀ c ∈ ds, isAsciiDigit c = true) :
      moreDigits isAsciiDigit (ds ++ rest) = some (ds, rest) := by
    induction ds with
    | nil => exact moreDigits_end hrest
    | cons d ds ih =>
      obtain ⟨hd, hdigits⟩ := List.forall_mem_cons.1 hdigits
      have hline : d ≠ '_' := by
        rintro rfl
        cases hd
      rw [List.cons_append, moreDigits_digit hd hline, ih hdigits]
      rfl
  cases ds with
  | nil => exact absurd rfl hne
  | cons d ds =>
    obtain ⟨hd, hdigits⟩ := List.forall_mem_cons.1 hdigits
    rw [List.cons_append, digitRun, if_pos hd, hmore ds hdigits]
    rfl

theorem marksBase_of_isAsciiDigit {c : Char} (h : isAsciiDigit c = true) : marksBase c = false := by
  rw [← Bool.not_eq_true]
  intro hc
  simp only [marksBase, Bool.or_eq_true, beq_iff_eq] at hc
  rcases hc with ((rfl | rfl) | rfl | rfl) | rfl | rfl <;> cases h

/-- The digits of a number are read as the number, unless there are too many. -/
theorem numeral?_toDigits {n : Nat} (hn : (Nat.toDigits 10 n).length ≤ maxDecimalDigits)
    {rest : List Char} (hrest : IsBehind rest) :
    numeral? (Nat.toDigits 10 n ++ rest) = some (.int n, rest) := by
  have hdigits : ∀ c ∈ Nat.toDigits 10 n, isAsciiDigit c = true := fun c hc =>
    isAsciiDigit_of_mem_toDigits hc
  have hstop : rest.head?.any (fun c => isAsciiDigit c || c == '_') = false :=
    hrest.any (by decide)
  have hrun := digitRun_append Nat.toDigits_ne_nil hdigits hstop
  have hclose : closeInteger (Nat.toDigits 10 n) rest = some (.int n, rest) := by
    have hzeros : ((Nat.toDigits 10 n).all (· == '0') || ((Nat.toDigits 10 n).head? != some '0' &&
        decide ((Nat.toDigits 10 n).length ≤ maxDecimalDigits))) = true := by
      rcases Nat.eq_zero_or_pos n with rfl | hpos
      · rfl
      · simp [head?_toDigits hpos, hn]
    rw [closeInteger, if_pos hzeros, closeNumeral, if_pos (endsNumeral_of_isBehind hrest),
      digitsValue_toDigits]
  have hdecimal : decimalNumeral (Nat.toDigits 10 n ++ rest) = some (.int n, rest) := by
    rw [decimalNumeral_eq]
    dsimp only
    rw [hrun, Option.bind_some]
    dsimp only
    rw [afterWhole, hrest.any (by decide), hrest.any (by decide), hrest.any (by decide)]
    simpa using hclose
  have hpoint : (Nat.toDigits 10 n ++ rest).head?.any (· == '.') = false := by
    cases hds : Nat.toDigits 10 n with
    | nil => exact absurd hds Nat.toDigits_ne_nil
    | cons d ds =>
      have hd := hdigits d (by simp [hds])
      rw [List.cons_append, List.head?_cons, Option.any_some, beq_eq_false_iff_ne]
      rintro rfl
      cases hd
  have hbase : (Nat.toDigits 10 n ++ rest).tail.head?.any marksBase = false := by
    cases hds : Nat.toDigits 10 n with
    | nil => exact absurd hds Nat.toDigits_ne_nil
    | cons d ds =>
      cases ds with
      | nil => exact hrest.any (by decide)
      | cons c ds => exact marksBase_of_isAsciiDigit (hdigits c (by simp [hds]))
  rw [numeral?_eq]
  simp only [hpoint, hbase, Bool.and_false, Bool.false_eq_true, if_false, hdecimal]

theorem token?_toDigits {n : Nat} (hn : (Nat.toDigits 10 n).length ≤ maxDecimalDigits)
    {rest : List Char} (hrest : IsBehind rest) :
    token? (Nat.toDigits 10 n ++ rest) = some (.numeral (.int n), rest) := by
  have hstarts : startsNumeral (Nat.toDigits 10 n ++ rest) = true := by
    cases hds : Nat.toDigits 10 n with
    | nil => exact absurd hds Nat.toDigits_ne_nil
    | cons d ds =>
      have hd : isAsciiDigit d = true := isAsciiDigit_of_mem_toDigits (n := n) (by simp [hds])
      rw [List.cons_append, startsNumeral]
      · exact hd
      · rintro e r he -
        rw [he] at hd
        cases hd
  rw [token?, if_pos hstarts, numeral?_toDigits hn hrest]
  rfl

end LambdaText.Code
