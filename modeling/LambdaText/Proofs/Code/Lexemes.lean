import LambdaText.Code.Token
import LambdaText.Proofs.Text.Tables
import Mathlib.Data.List.Find

/-!
# What a token looks at

A reader of numerals, names or signs takes characters that are no blanks, and of what follows it
sees no more than the characters up to the next blank. What comes behind that blank, and whether the
blank is another one, makes no difference.
-/

namespace LambdaText.Code

open LambdaText.Text

/-- Texts that agree up to a blank, in the place of which the second one may have a line feed. -/
inductive Similar : List Char → List Char → Prop
  | blank {d d' : Char} {rest other : List Char} (hd : isBlank d = true)
      (hd' : d' = d ∨ d' = '\n') : Similar (d :: rest) (d' :: other)
  | cons (c : Char) {rest other : List Char} (h : Similar rest other) :
      Similar (c :: rest) (c :: other)

theorem Similar.append (taken : List Char) {rest other : List Char} (h : Similar rest other) :
    Similar (taken ++ rest) (taken ++ other) := by
  induction taken with
  | nil => exact h
  | cons c taken ih => exact .cons c ih

theorem isBlank_of_similar {d d' : Char} (hd : isBlank d = true) (hd' : d' = d ∨ d' = '\n') :
    isBlank d' = true := by
  rcases hd' with rfl | rfl
  · exact hd
  · rfl

/-- Similar texts have the same words without blanks in front. -/
theorem Similar.isPrefixOf {rest other : List Char} (h : Similar rest other) {word : List Char}
    (hword : ∀ c ∈ word, isBlank c = false) : word.isPrefixOf rest = word.isPrefixOf other := by
  induction h generalizing word with
  | @blank d d' rest other hd hd' =>
    cases word with
    | nil => rfl
    | cons c word =>
      have hc := hword c (by simp)
      have hne : ∀ e, isBlank e = true → (c == e) = false := by
        intro e he
        rw [beq_eq_false_iff_ne]
        rintro rfl
        rw [hc] at he
        cases he
      rw [List.isPrefixOf, hne d hd, List.isPrefixOf, hne d' (isBlank_of_similar hd hd')]
      rfl
  | cons c _ ih =>
    cases word with
    | nil => rfl
    | cons w word =>
      rw [List.isPrefixOf, List.isPrefixOf, ih fun c hc => hword c (by simp [hc])]

/-! ### Readers of characters -/

/-- Whether a reader takes characters that are no blanks off a text, and takes them off every text
that goes on in a similar way. -/
def Takes {α : Type} (f : List Char → Option (α × List Char)) (text : List Char) (a : α)
    (rest : List Char) : Prop :=
  ∃ taken, text = taken ++ rest ∧ (∀ c ∈ taken, isBlank c = false) ∧
    ∀ other, Similar rest other → f (taken ++ other) = some (a, other)

/-- A reader that looks no further than to the next blank. -/
def Reads {α : Type} (f : List Char → Option (α × List Char)) : Prop :=
  ∀ ⦃text : List Char⦄ ⦃a : α⦄ ⦃rest : List Char⦄, f text = some (a, rest) → Takes f text a rest

section Takes

variable {α β : Type} {f : List Char → Option (α × List Char)}
  {g : List Char → Option (β × List Char)} {text rest : List Char} {a : α} {b : β}

theorem Takes.nothing (h : ∀ other, Similar rest other → f other = some (a, other)) :
    Takes f rest a rest :=
  ⟨[], rfl, by simp, h⟩

/-- Another reader first, behind characters that are taken in any case. -/
theorem Takes.front (h : Takes g text b rest) (front : List Char)
    (hfront : ∀ c ∈ front, isBlank c = false)
    (hf : ∀ w r, Similar text w → g w = some (b, r) → f (front ++ w) = some (a, r)) :
    Takes f (front ++ text) a rest := by
  obtain ⟨taken, rfl, htaken, hother⟩ := h
  refine ⟨front ++ taken, by rw [List.append_assoc], ?_, fun other hsim => ?_⟩
  · intro c hc
    exact (List.mem_append.1 hc).elim (hfront c) (htaken c)
  · rw [List.append_assoc]
    exact hf _ _ (hsim.append taken) (hother other hsim)

theorem Takes.cons {c : Char} (hc : isBlank c = false) (h : Takes g text b rest)
    (hf : ∀ w r, Similar text w → g w = some (b, r) → f (c :: w) = some (a, r)) :
    Takes f (c :: text) a rest :=
  h.front [c] (by simpa using hc) hf

theorem Takes.of (h : Takes g text b rest)
    (hf : ∀ w r, Similar text w → g w = some (b, r) → f w = some (a, r)) : Takes f text a rest :=
  h.front [] (by simp) hf

/-- One reader after another one. -/
theorem Takes.bind {k : List Char → Option (α × List Char)} {middle : List Char}
    (h : Takes g text b middle) (hk : Takes k middle a rest)
    (hf : ∀ w r r', Similar text w → g w = some (b, r) → k r = some (a, r') →
      f w = some (a, r')) : Takes f text a rest := by
  obtain ⟨taken, rfl, htaken, hother⟩ := h
  obtain ⟨more, rfl, hmore, hother'⟩ := hk
  refine ⟨taken ++ more, by rw [List.append_assoc], ?_, fun other hsim => ?_⟩
  · intro c hc
    exact (List.mem_append.1 hc).elim (htaken c) (hmore c)
  · have hmiddle := hsim.append more
    rw [List.append_assoc]
    exact hf _ _ _ (hmiddle.append taken) (hother _ hmiddle) (hother' other hsim)

end Takes

/-! ### Classes of characters -/

/-- A class of characters without blanks. -/
def AvoidsBlanks (test : Char → Bool) : Prop := ∀ c, isBlank c = true → test c = false

theorem AvoidsBlanks.not_blank {test : Char → Bool} (h : AvoidsBlanks test) {c : Char}
    (hc : test c = true) : isBlank c = false := by
  rw [← Bool.not_eq_true]
  intro hblank
  rw [h c hblank] at hc
  cases hc

theorem avoidsBlanks_or {p q : Char → Bool} (hp : AvoidsBlanks p) (hq : AvoidsBlanks q) :
    AvoidsBlanks fun c => p c || q c := by
  intro c hc
  simp only [hp c hc, hq c hc, Bool.or_self]

theorem avoidsBlanks_eq {d : Char} (hd : isBlank d = false) : AvoidsBlanks (· == d) := by
  intro c hc
  rw [beq_eq_false_iff_ne]
  rintro rfl
  rw [hd] at hc
  cases hc

/-- What no blank passes is passed by the next character of similar texts alike. -/
theorem Similar.any_head {rest other : List Char} (h : Similar rest other) {test : Char → Bool}
    (htest : AvoidsBlanks test) : rest.head?.any test = other.head?.any test := by
  cases h with
  | blank hd hd' => simp [htest _ hd, htest _ (isBlank_of_similar hd hd')]
  | cons c h => rfl

theorem avoidsBlanks_of_range {test : Char → Bool}
    (h : ∀ c, test c = true → 0x20 < c.toNat ∧ c.toNat < 0x80) : AvoidsBlanks test := by
  intro c hc
  rw [← Bool.not_eq_true]
  intro htest
  have hrange := h c htest
  simp only [isBlank, Bool.or_eq_true, Bool.and_eq_true, decide_eq_true_eq, beq_iff_eq] at hc
  omega

theorem toNat_le_of_le {c d : Char} (h : c ≤ d) : c.toNat ≤ d.toNat :=
  UInt32.le_iff_toNat_le.1 (Char.le_def.1 h)

theorem avoidsBlanks_isAsciiDigit : AvoidsBlanks isAsciiDigit := by
  refine avoidsBlanks_of_range fun c hc => ?_
  simp only [isAsciiDigit, Bool.and_eq_true, decide_eq_true_eq] at hc
  exact ⟨Nat.lt_of_lt_of_le (by decide) (toNat_le_of_le hc.1),
    Nat.lt_of_le_of_lt (toNat_le_of_le hc.2) (by decide)⟩

/-! ### Choices -/

/-- A test of texts that similar texts pass alike. -/
def SeesSimilar (p : List Char → Bool) : Prop :=
  ∀ ⦃rest other⦄, Similar rest other → p rest = p other

section Choices

variable {α β : Type} {f g : List Char → Option (α × List Char)}

theorem reads_none : Reads (fun _ => none : List Char → Option (α × List Char)) :=
  fun _ _ _ h => nomatch h

theorem reads_ite {p : List Char → Bool} (hp : SeesSimilar p) (hf : Reads f) (hg : Reads g) :
    Reads fun text => if p text then f text else g text := by
  intro text a rest h
  dsimp only at h
  cases hcase : p text with
  | true =>
    rw [hcase, if_pos rfl] at h
    refine (hf h).of fun w r hsim hw => ?_
    rw [← hp hsim, hcase, if_pos rfl, hw]
  | false =>
    rw [hcase, if_neg Bool.false_ne_true] at h
    refine (hg h).of fun w r hsim hw => ?_
    rw [← hp hsim, hcase, if_neg Bool.false_ne_true, hw]

/-- A choice by the next character, which the first reader does not see. -/
theorem reads_choice {test : Char → Bool} (htest : AvoidsBlanks test) (hf : Reads f)
    (hg : Reads g) :
    Reads fun text => if text.head?.any test then f text.tail else g text := by
  intro text a rest h
  dsimp only at h
  cases hcase : text.head?.any test with
  | true =>
    cases text with
    | nil => cases hcase
    | cons c text =>
      rw [hcase, if_pos rfl] at h
      refine (hf h).cons (htest.not_blank hcase) fun w r hsim hw => ?_
      rw [List.head?_cons, Option.any_some, show test c = true from hcase, if_pos rfl]
      exact hw
  | false =>
    rw [hcase, if_neg Bool.false_ne_true] at h
    refine (hg h).of fun w r hsim hw => ?_
    rw [← hsim.any_head htest, hcase, if_neg Bool.false_ne_true, hw]

theorem reads_map (φ : α → β) (hf : Reads f) :
    Reads fun text => (f text).map fun (a, r) => (φ a, r) := by
  intro text a rest h
  obtain ⟨⟨b, r⟩, hr, ⟨⟩⟩ := Option.map_eq_some_iff.1 h
  refine (hf hr).of fun w r _ hw => ?_
  simp only [hw, Option.map_some]

theorem reads_bind {k : α → List Char → Option (β × List Char)} (hf : Reads f)
    (hk : ∀ a, Reads (k a)) : Reads fun text => (f text).bind fun (a, r) => k a r := by
  intro text b rest h
  obtain ⟨⟨a, r⟩, hr, hrest⟩ := Option.bind_eq_some_iff.1 h
  refine (hf hr).bind (hk a hrest) fun w r r' _ hw hr' => ?_
  simp only [hw, Option.bind_some, hr']

end Choices

/-! ### Digits -/

theorem moreDigits_digit {isDig : Char → Bool} {d : Char} (hd : isDig d = true) (hline : d ≠ '_')
    (rest : List Char) : moreDigits isDig (d :: rest) =
      (moreDigits isDig rest).map fun (ds, r) => (d :: ds, r) := by
  rw [moreDigits, if_pos hd] <;> simp [hline]

theorem moreDigits_end {isDig : Char → Bool} {rest : List Char}
    (h : rest.head?.any (fun c => isDig c || c == '_') = false) :
    moreDigits isDig rest = some ([], rest) := by
  cases rest with
  | nil => rfl
  | cons d rest =>
    simp only [List.head?_cons, Option.any_some, Bool.or_eq_false_iff, beq_eq_false_iff_ne] at h
    rw [moreDigits, h.1] <;> simp [h.2]

theorem reads_moreDigits {isDig : Char → Bool} (hdig : AvoidsBlanks isDig) :
    Reads (moreDigits isDig) := by
  intro text
  fun_induction moreDigits isDig text with
  | case1 =>
    rintro a rest h
    cases h
    exact .nothing fun other hsim => nomatch hsim
  | case2 => exact fun a rest h => nomatch h
  | case3 d rest hd ih =>
    rintro a tail h
    obtain ⟨⟨ds, r⟩, hmore, ⟨⟩⟩ := Option.map_eq_some_iff.1 h
    refine (ih hmore).front ['_', d] ?_ fun w r _ hw => ?_
    · simp [hdig.not_blank hd, show isBlank '_' = false from rfl]
    · simp [moreDigits, hd, hw]
  | case4 => exact fun a rest h => nomatch h
  | case5 d rest hne hne' hd ih =>
    rintro a tail h
    obtain ⟨⟨ds, r⟩, hmore, ⟨⟩⟩ := Option.map_eq_some_iff.1 h
    have hline : d ≠ '_' := by
      rintro rfl
      cases rest with
      | nil => exact hne rfl rfl
      | cons c rest => exact hne' c rest rfl rfl
    refine (ih hmore).cons (hdig.not_blank hd) fun w r _ hw => ?_
    rw [moreDigits_digit hd hline, hw]
    rfl
  | case6 d rest hne hne' hd =>
    rintro a tail h
    cases h
    have hline : d ≠ '_' := by
      rintro rfl
      cases rest with
      | nil => exact hne rfl rfl
      | cons c rest => exact hne' c rest rfl rfl
    refine .nothing fun other hsim => moreDigits_end ?_
    rw [← hsim.any_head (avoidsBlanks_or hdig (avoidsBlanks_eq rfl))]
    simp [hd, hline]

theorem reads_digitRun {isDig : Char → Bool} (hdig : AvoidsBlanks isDig) :
    Reads (digitRun isDig) := by
  intro text a tail h
  cases text with
  | nil => cases h
  | cons c rest =>
    rw [digitRun] at h
    split at h
    · next hc =>
      obtain ⟨⟨ds, r⟩, hmore, ⟨⟩⟩ := Option.map_eq_some_iff.1 h
      refine (reads_moreDigits hdig hmore).cons (hdig.not_blank hc) fun w r _ hw => ?_
      rw [digitRun, if_pos hc, hw]
      rfl
    · cases h

/-! ### Numerals -/

theorem Similar.endsNumeral {rest other : List Char} (h : Similar rest other)
    (hends : endsNumeral rest = true) : endsNumeral other = true := by
  have hwords : ∀ word ∈ followingWords, word.toList.isPrefixOf rest =
      word.toList.isPrefixOf other := by
    intro word hword
    refine h.isPrefixOf ?_
    have hall : ∀ word ∈ followingWords, word.toList.all fun c => !isBlank c := by decide
    simpa using hall word hword
  unfold Code.endsNumeral at hends ⊢
  rw [Bool.or_eq_true, List.any_eq_true] at hends ⊢
  rcases hends with ⟨word, hword, hin⟩ | hends
  · exact .inl ⟨word, hword, by rw [← hwords word hword, hin]⟩
  · refine .inr ?_
    cases h with
    | blank hd hd' =>
      rcases hd' with rfl | rfl
      · exact hends
      · rfl
    | cons c h => exact hends

theorem reads_closeNumeral (n : Numeral) : Reads (closeNumeral n) := by
  intro text a rest h
  rw [closeNumeral] at h
  split at h
  · next hends =>
    cases h
    refine .nothing fun other hsim => ?_
    rw [closeNumeral, if_pos (hsim.endsNumeral hends)]
  · cases h

def marksImaginary (c : Char) : Bool := c == 'j' || c == 'J'

theorem avoidsBlanks_marksImaginary : AvoidsBlanks marksImaginary :=
  avoidsBlanks_or (avoidsBlanks_eq rfl) (avoidsBlanks_eq rfl)

theorem reads_closeDecimal (whole fraction : List Char) (e : Int) :
    Reads (closeDecimal whole fraction e) := by
  have heq : closeDecimal whole fraction e = fun rest => if rest.head?.any marksImaginary then
      closeNumeral (.imaginary (Number.floatOfDecimal false
        (digitsValue 10 (whole ++ fraction)) (e - fraction.length))) rest.tail
      else closeNumeral (.float (Number.floatOfDecimal false
        (digitsValue 10 (whole ++ fraction)) (e - fraction.length))) rest := by
    funext rest
    cases rest with
    | nil => rfl
    | cons c rest => simp [closeDecimal, marksImaginary]
  rw [heq]
  exact reads_choice avoidsBlanks_marksImaginary (reads_closeNumeral _) (reads_closeNumeral _)

theorem reads_exponent : Reads exponent? := by
  have heq : exponent? = fun rest => if rest.head?.any (· == '+') then
      (digitRun isAsciiDigit rest.tail).map fun (ds, r) => ((digitsValue 10 ds : Int), r)
      else if rest.head?.any (· == '-') then
        (digitRun isAsciiDigit rest.tail).map fun (ds, r) => (-(digitsValue 10 ds : Int), r)
      else (digitRun isAsciiDigit rest).map fun (ds, r) => ((digitsValue 10 ds : Int), r) := by
    funext rest
    fun_cases exponent? rest <;> simp_all
    cases rest <;> simp_all
  have hdigits := reads_digitRun avoidsBlanks_isAsciiDigit
  rw [heq]
  exact reads_choice (avoidsBlanks_eq rfl) (reads_map (fun ds => (digitsValue 10 ds : Int)) hdigits)
    (reads_choice (avoidsBlanks_eq rfl)
      (reads_map (fun ds => (-digitsValue 10 ds : Int)) hdigits)
      (reads_map (fun ds => (digitsValue 10 ds : Int)) hdigits))

def marksExponent (c : Char) : Bool := c == 'e' || c == 'E'

/-- Whether a character may follow the mark of an exponent. -/
def opensExponent (c : Char) : Bool := c == '+' || c == '-' || isAsciiDigit c

theorem avoidsBlanks_marksExponent : AvoidsBlanks marksExponent :=
  avoidsBlanks_or (avoidsBlanks_eq rfl) (avoidsBlanks_eq rfl)

theorem avoidsBlanks_opensExponent : AvoidsBlanks opensExponent :=
  avoidsBlanks_or (avoidsBlanks_or (avoidsBlanks_eq rfl) (avoidsBlanks_eq rfl))
    avoidsBlanks_isAsciiDigit

/-- Two characters in a row that are no blanks are seen alike. -/
theorem seesSimilar_two {p q : Char → Bool} (hp : AvoidsBlanks p) (hq : AvoidsBlanks q) :
    SeesSimilar fun text => text.head?.any p && text.tail.head?.any q := by
  intro rest other h
  cases h with
  | blank hd hd' => simp [hp _ hd, hp _ (isBlank_of_similar hd hd')]
  | cons c h => simp only [List.head?_cons, List.tail_cons, h.any_head hq]

theorem seesSimilar_last {p : Char → Bool} (hp : AvoidsBlanks p) :
    SeesSimilar fun text => text.head?.any p && text.tail.isEmpty := by
  intro rest other h
  cases h with
  | blank hd hd' => simp [hp _ hd, hp _ (isBlank_of_similar hd hd')]
  | cons c h => cases h <;> simp

theorem decimalTail_eq (whole fraction : List Char) : decimalTail whole fraction = fun rest =>
    if rest.head?.any marksExponent && rest.tail.isEmpty then none
    else if rest.head?.any marksExponent && rest.tail.head?.any opensExponent then
      if rest.head?.any marksExponent then
        (exponent? rest.tail).bind fun (e, r) => closeDecimal whole fraction e r
      else none
    else closeDecimal whole fraction 0 rest := by
  funext rest
  cases rest with
  | nil => rfl
  | cons c rest =>
    cases rest with
    | nil => simp [decimalTail, marksExponent]
    | cons d rest =>
      by_cases hc : c = 'e' ∨ c = 'E'
      · simp [decimalTail, marksExponent, opensExponent, hc, or_assoc]
      · simp [decimalTail, marksExponent, hc]

theorem reads_decimalTail (whole fraction : List Char) : Reads (decimalTail whole fraction) := by
  rw [decimalTail_eq]
  refine reads_ite (seesSimilar_last avoidsBlanks_marksExponent) reads_none
    (reads_ite (seesSimilar_two avoidsBlanks_marksExponent avoidsBlanks_opensExponent) ?_
      (reads_closeDecimal _ _ _))
  exact reads_choice avoidsBlanks_marksExponent
    (reads_bind reads_exponent fun e => reads_closeDecimal _ _ e) reads_none

theorem reads_fraction (whole : List Char) : Reads (fraction? whole) := by
  have heq : fraction? whole = fun rest => if rest.head?.any isAsciiDigit then
      (digitRun isAsciiDigit rest).bind fun (ds, r) => decimalTail whole ds r
      else decimalTail whole [] rest := by
    funext rest
    cases rest with
    | nil => rfl
    | cons d rest =>
      rw [fraction?, List.head?_cons, Option.any_some]
      rfl
  rw [heq]
  exact reads_ite (fun _ _ h => h.any_head avoidsBlanks_isAsciiDigit)
    (reads_bind (reads_digitRun avoidsBlanks_isAsciiDigit) fun ds => reads_decimalTail _ ds)
    (reads_decimalTail _ _)

theorem reads_closeInteger (ds : List Char) : Reads (closeInteger ds) := by
  unfold closeInteger
  split
  · exact reads_closeNumeral _
  · exact reads_none

/-- What follows the whole digits of a numeral. -/
def afterWhole (ds rest : List Char) : Option (Numeral × List Char) :=
  if rest.head?.any (· == '.') then fraction? ds rest.tail
  else if rest.head?.any marksImaginary then
    closeNumeral (.imaginary (Number.floatOfDecimal false (digitsValue 10 ds) 0)) rest.tail
  else if rest.head?.any marksExponent && rest.tail.isEmpty then none
  else if rest.head?.any marksExponent && rest.tail.head?.any opensExponent then
    decimalTail ds [] rest
  else closeInteger ds rest

theorem reads_afterWhole (ds : List Char) : Reads (afterWhole ds) :=
  reads_choice (avoidsBlanks_eq (d := '.') rfl) (reads_fraction ds)
    (reads_choice avoidsBlanks_marksImaginary (reads_closeNumeral _)
      (reads_ite (seesSimilar_last avoidsBlanks_marksExponent) reads_none
        (reads_ite (seesSimilar_two avoidsBlanks_marksExponent avoidsBlanks_opensExponent)
          (reads_decimalTail _ _) (reads_closeInteger ds))))

theorem decimalNumeral_eq : decimalNumeral = fun text =>
    (digitRun isAsciiDigit text).bind fun (ds, rest) => afterWhole ds rest := by
  funext text
  unfold decimalNumeral
  refine congrArg _ (funext fun (ds, rest) => ?_)
  cases rest with
  | nil => rfl
  | cons c rest =>
    by_cases hpoint : c = '.'
    · simp [afterWhole, hpoint]
    · have hmatch : ∀ r, c :: rest = '.' :: r → False := fun r h => hpoint (List.cons.inj h).1
      by_cases hj : c = 'j' ∨ c = 'J'
      · simp [afterWhole, marksImaginary, hpoint, hj]
      · cases rest <;> by_cases he : c = 'e' ∨ c = 'E' <;>
          simp [afterWhole, marksImaginary, marksExponent, opensExponent, hpoint, hj, he, or_assoc]

theorem reads_decimalNumeral : Reads decimalNumeral := by
  rw [decimalNumeral_eq]
  exact reads_bind (reads_digitRun avoidsBlanks_isAsciiDigit) reads_afterWhole

theorem reads_basedNumeral (base : Nat) {isDig : Char → Bool} (hdig : AvoidsBlanks isDig) :
    Reads (basedNumeral base isDig) := by
  have heq : basedNumeral base isDig = fun text => if text.head?.any (· == '_') then
      (digitRun isDig text.tail).bind fun (ds, r) => closeNumeral (.int (digitsValue base ds)) r
      else (digitRun isDig text).bind fun (ds, r) =>
        closeNumeral (.int (digitsValue base ds)) r := by
    funext text
    cases text with
    | nil => rfl
    | cons c text =>
      by_cases hc : c = '_'
      · subst hc
        rfl
      · simp [basedNumeral, hc]
  have hrun : Reads fun text => (digitRun isDig text).bind fun (ds, r) =>
      closeNumeral (.int (digitsValue base ds)) r :=
    reads_bind (reads_digitRun hdig) fun ds => reads_closeNumeral (.int (digitsValue base ds))
  rw [heq]
  exact reads_choice (avoidsBlanks_eq rfl) hrun hrun

theorem avoidsBlanks_isHexDigit : AvoidsBlanks isHexDigit := by
  refine avoidsBlanks_of_range fun c hc => ?_
  unfold isHexDigit hexValue? at hc
  split at hc
  · next h =>
    exact ⟨Nat.lt_of_lt_of_le (by decide) (toNat_le_of_le h.1),
      Nat.lt_of_le_of_lt (toNat_le_of_le h.2) (by decide)⟩
  · split at hc
    · next h =>
      exact ⟨Nat.lt_of_lt_of_le (by decide) (toNat_le_of_le h.1),
        Nat.lt_of_le_of_lt (toNat_le_of_le h.2) (by decide)⟩
    · split at hc
      · next h =>
        exact ⟨Nat.lt_of_lt_of_le (by decide) (toNat_le_of_le h.1),
          Nat.lt_of_le_of_lt (toNat_le_of_le h.2) (by decide)⟩
      · cases hc

theorem avoidsBlanks_isOctalDigit : AvoidsBlanks isOctalDigit := by
  refine avoidsBlanks_of_range fun c hc => ?_
  simp only [isOctalDigit, Bool.and_eq_true, decide_eq_true_eq] at hc
  exact ⟨Nat.lt_of_lt_of_le (by decide) (toNat_le_of_le hc.1),
    Nat.lt_of_le_of_lt (toNat_le_of_le hc.2) (by decide)⟩

theorem avoidsBlanks_isBinaryDigit : AvoidsBlanks isBinaryDigit :=
  avoidsBlanks_or (avoidsBlanks_eq rfl) (avoidsBlanks_eq rfl)

/-- The digits of a numeral with the mark of a base, from the mark on. -/
def markedNumeral (text : List Char) : Option (Numeral × List Char) :=
  if text.head?.any (fun c => c == 'x' || c == 'X') then basedNumeral 16 isHexDigit text.tail
  else if text.head?.any (fun c => c == 'o' || c == 'O') then
    basedNumeral 8 isOctalDigit text.tail
  else if text.head?.any (fun c => c == 'b' || c == 'B') then
    basedNumeral 2 isBinaryDigit text.tail
  else none

theorem reads_markedNumeral : Reads markedNumeral :=
  reads_choice (avoidsBlanks_or (avoidsBlanks_eq rfl) (avoidsBlanks_eq rfl))
    (reads_basedNumeral 16 avoidsBlanks_isHexDigit)
    (reads_choice (avoidsBlanks_or (avoidsBlanks_eq rfl) (avoidsBlanks_eq rfl))
      (reads_basedNumeral 8 avoidsBlanks_isOctalDigit)
      (reads_choice (avoidsBlanks_or (avoidsBlanks_eq rfl) (avoidsBlanks_eq rfl))
        (reads_basedNumeral 2 avoidsBlanks_isBinaryDigit) reads_none))

def marksBase (c : Char) : Bool :=
  c == 'x' || c == 'X' || (c == 'o' || c == 'O') || (c == 'b' || c == 'B')

theorem avoidsBlanks_marksBase : AvoidsBlanks marksBase :=
  avoidsBlanks_of_range fun c hc => by
    simp only [marksBase, Bool.or_eq_true, beq_iff_eq] at hc
    rcases hc with ((rfl | rfl) | rfl | rfl) | rfl | rfl <;> decide

theorem numeral?_eq : numeral? = fun text =>
    if text.head?.any (· == '.') then fraction? [] text.tail
    else if text.head?.any (· == '0') && text.tail.head?.any marksBase then
      if text.head?.any (· == '0') then markedNumeral text.tail else none
    else decimalNumeral text := by
  funext text
  cases text with
  | nil => rfl
  | cons c text =>
    by_cases hpoint : c = '.'
    · subst hpoint
      rfl
    · by_cases hzero : c = '0'
      · subst hzero
        cases text with
        | nil => rfl
        | cons d text =>
          by_cases hx : d = 'x' ∨ d = 'X' <;> by_cases ho : d = 'o' ∨ d = 'O' <;>
            by_cases hb : d = 'b' ∨ d = 'B' <;>
            simp [numeral?, markedNumeral, marksBase, hx, ho, hb]
      · have hfirst : numeral? (c :: text) = decimalNumeral (c :: text) := by
          rw [numeral?] <;> simp [hpoint, hzero]
        simp [hfirst, hpoint, hzero]

theorem reads_numeral : Reads numeral? := by
  rw [numeral?_eq]
  exact reads_choice (avoidsBlanks_eq rfl) (reads_fraction [])
    (reads_ite (seesSimilar_two (avoidsBlanks_eq rfl) avoidsBlanks_marksBase)
      (reads_choice (avoidsBlanks_eq rfl) reads_markedNumeral reads_none) reads_decimalNumeral)

theorem Takes.length_le {α : Type} {f : List Char → Option (α × List Char)} {text rest : List Char}
    {a : α} (h : Takes f text a rest) : rest.length ≤ text.length := by
  obtain ⟨taken, rfl, -, -⟩ := h
  simp

theorem length_lt_of_digitRun {isDig : Char → Bool} (hdig : AvoidsBlanks isDig)
    {text rest ds : List Char} (h : digitRun isDig text = some (ds, rest)) :
    rest.length < text.length := by
  cases text with
  | nil => cases h
  | cons c text =>
    rw [digitRun] at h
    split at h
    · obtain ⟨⟨ds, r⟩, hmore, ⟨⟩⟩ := Option.map_eq_some_iff.1 h
      exact Nat.lt_succ_of_le (reads_moreDigits hdig hmore).length_le
    · cases h

theorem length_lt_of_numeral {text rest : List Char} {n : Numeral}
    (h : numeral? text = some (n, rest)) : rest.length < text.length := by
  have hle : ∀ {f : List Char → Option (Numeral × List Char)}, Reads f → ∀ {c : Char},
      f text.tail = some (n, rest) → text.head?.any (· == c) = true →
      rest.length < text.length := by
    intro f hf c hn hc
    cases text with
    | nil => cases hc
    | cons c text => exact Nat.lt_succ_of_le (hf hn).length_le
  rw [numeral?_eq] at h
  dsimp only at h
  split at h
  · next hc => exact hle (reads_fraction []) h hc
  · split at h
    · split at h
      · next hc => exact hle reads_markedNumeral h hc
      · cases h
    · rw [decimalNumeral_eq] at h
      obtain ⟨⟨ds, r⟩, hr, hrest⟩ := Option.bind_eq_some_iff.1 h
      exact Nat.lt_of_le_of_lt (reads_afterWhole ds hrest).length_le
        (length_lt_of_digitRun avoidsBlanks_isAsciiDigit hr)

/-! ### Signs and names -/

theorem signs_noBlank : ∀ s ∈ signs, ∀ c ∈ s.toList, isBlank c = false := by
  have hall : ∀ s ∈ signs, s.toList.all fun c => !isBlank c := by decide
  intro s hs c hc
  simpa using List.all_eq_true.1 (hall s hs) c hc

theorem drop_length_append (s : String) (rest : List Char) :
    (s.toList ++ rest).drop s.length = rest := by
  rw [← String.length_toList, List.drop_left]

theorem eq_append_of_sign {text rest : List Char} {s : String} (h : sign? text = some (s, rest)) :
    (signs.find? fun s => s.toList.isPrefixOf text) = some s ∧ text = s.toList ++ rest := by
  obtain ⟨found, hfound, ⟨⟩⟩ := Option.map_eq_some_iff.1 h
  refine ⟨hfound, ?_⟩
  have hin := List.find?_some hfound
  obtain ⟨tail, rfl⟩ := List.isPrefixOf_iff_prefix.1 hin
  rw [drop_length_append]

theorem reads_sign : Reads sign? := by
  intro text s rest h
  obtain ⟨hfound, rfl⟩ := eq_append_of_sign h
  refine ⟨s.toList, rfl, signs_noBlank s (List.mem_of_find?_eq_some hfound), fun other hsim => ?_⟩
  have hsame : (signs.find? fun s' => s'.toList.isPrefixOf (s.toList ++ other)) = some s := by
    rw [← hfound]
    refine List.find?_congr fun s' hs' => ?_
    rw [(hsim.append s.toList).isPrefixOf (signs_noBlank s' hs')]
  rw [sign?, hsame, Option.map_some, drop_length_append]

theorem length_lt_of_sign {text rest : List Char} {s : String} (h : sign? text = some (s, rest)) :
    rest.length < text.length := by
  obtain ⟨hfound, rfl⟩ := eq_append_of_sign h
  have hall : ∀ s ∈ signs, s.toList ≠ [] := by decide
  rw [List.length_append]
  exact Nat.lt_add_of_pos_left
    (List.length_pos_iff.2 (hall s (List.mem_of_find?_eq_some hfound)))

theorem noBlank_of_nameToken {run : List Char} {t : Token} (h : nameToken? run = some t) :
    ∀ c ∈ run, isBlank c = false := by
  have hid : isIdentifier run = true := by
    unfold nameToken? at h
    split at h
    · next hreserved =>
      have hall : ∀ w ∈ reservedWords, isIdentifier w.toList = true := by decide
      have hmem : String.ofList run ∈ reservedWords := by
        rwa [isReserved, List.contains_eq_mem, decide_eq_true_eq] at hreserved
      rw [← String.toList_ofList (l := run)]
      exact hall _ hmem
    · split at h
      · assumption
      · cases h
  intro c hc
  rw [← Bool.not_eq_true]
  intro hblank
  have hrest := isIdentifierRest_of_mem hid c hc
  rw [isIdentifierRest_of_blank hblank] at hrest
  cases hrest

/-- What ends a name goes on doing so in similar texts. -/
theorem Similar.any_mayBelongToName {rest other : List Char} (h : Similar rest other)
    (hrest : rest.head?.any mayBelongToName = false) :
    other.head?.any mayBelongToName = false := by
  cases h with
  | blank hd hd' =>
    rcases hd' with rfl | rfl
    · exact hrest
    · rfl
  | cons c h => exact hrest

def isQuoteChar (c : Char) : Bool := c == '\'' || c == '"'

theorem avoidsBlanks_isQuoteChar : AvoidsBlanks isQuoteChar :=
  avoidsBlanks_or (avoidsBlanks_eq rfl) (avoidsBlanks_eq rfl)

theorem startsQuote_eq (text : List Char) : startsQuote text = text.head?.any isQuoteChar := by
  cases text <;> rfl

end LambdaText.Code
