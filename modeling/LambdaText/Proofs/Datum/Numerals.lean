import LambdaText.Datum.Validation
import LambdaText.Proofs.Code.Constants

/-!
# Decimal texts

What is done to the text of an integer before it is read leaves decimal digits as they are, so that
the decimal text of a natural number is read as this number.
-/

namespace LambdaText

open LambdaText.Code LambdaText.Text

section

variable {ds : List Char} (h : ∀ c ∈ ds, isAsciiDigit c = true)

include h

theorem dropWhile_digits {p : Char → Bool} (hp : ∀ c, isAsciiDigit c = true → p c = false) :
    ds.dropWhile p = ds := by
  cases ds with
  | nil => rfl
  | cons d rest => simp [hp d (h d (List.mem_cons_self ..))]

theorem trimNumeral_digits : trimNumeral ds = ds := by
  have hblank (c : Char) (hc : isAsciiDigit c = true) : isNumeralBlank c = false := by
    rw [isNumeralBlank, avoidsBlanks_isAsciiDigit.not_blank hc, Bool.false_and]
  have hreverse : ∀ c ∈ ds.reverse, isAsciiDigit c = true := fun c hc => h c (List.mem_reverse.1 hc)
  rw [trimNumeral, dropWhile_digits h hblank, dropWhile_digits hreverse hblank, List.reverse_reverse]

theorem dropFraction_digits : dropFraction ds = ds := by
  have hnone : ds.dropWhile (· != '.') = [] := by
    refine List.dropWhile_eq_nil_iff.2 fun c hc => ?_
    have hdot : isAsciiDigit '.' = false := by decide
    rw [bne_iff_ne]
    rintro rfl
    simp [h _ hc] at hdot
  simp [dropFraction, hnone]

theorem dropUnderscores_digits : dropUnderscores ds = some ds := by
  have hne : ∀ c ∈ ds, c ≠ '_' := by
    rintro c hc rfl
    exact absurd (h _ hc) (by decide)
  have hdouble : hasDoubleUnderscore ds = false := by
    clear h
    induction ds with
    | nil => rfl
    | cons c rest ih =>
      have hrest := ih fun d hd => hne d (List.mem_cons_of_mem c hd)
      unfold hasDoubleUnderscore
      split
      · next heq =>
        cases heq
        exact absurd rfl (hne _ (List.mem_cons_self ..))
      · next heq =>
        cases heq
        exact hrest
      · rfl
  have hhead : ds.head? ≠ some '_' := fun hc => hne _ (List.mem_of_mem_head? hc) rfl
  have hlast : ds.getLast? ≠ some '_' := fun hc => hne _ (List.mem_of_getLast? hc) rfl
  have hfilter : ds.filter (· != '_') = ds := List.filter_eq_self.2 fun c hc => by simp [hne c hc]
  simp [dropUnderscores, hdouble, hhead, hlast, hfilter]

end

theorem significantPart_toDigits (n : Nat) :
    significantPart (Nat.toDigits 10 n) = some (Nat.toDigits 10 n) := by
  rcases Nat.eq_zero_or_pos n with rfl | hn
  · rfl
  · cases hds : Nat.toDigits 10 n with
    | nil => exact absurd hds Nat.toDigits_ne_nil
    | cons d rest =>
      have hd : isAsciiDigit d = true := isAsciiDigit_of_mem_toDigits (n := n) (by simp [hds])
      have hzero : d ≠ '0' := by
        have hhead := head?_toDigits hn
        rw [hds] at hhead
        simpa using hhead
      have hone : '1' ≤ d ∧ d ≤ '9' := by
        simp only [isAsciiDigit, Bool.and_eq_true, decide_eq_true_eq, Char.le_def] at hd ⊢
        have := fun hval : d.val = 48 => hzero (Char.ext hval)
        grind
      simp [significantPart, hzero, hone]

theorem signedValue?_toDigits (n : Nat) : signedValue? (Nat.toDigits 10 n) = some (n : Int) := by
  have hdigits : ∀ c ∈ Nat.toDigits 10 n, isAsciiDigit c = true := fun c hc =>
    isAsciiDigit_of_mem_toDigits hc
  have hfold : Nat.ofDigitChars 10 (Nat.toDigits 10 n) 0 = n :=
    Nat.ofDigitChars_toDigits (by decide) (by decide)
  have hvalue : decimalDigitsValue? (Nat.toDigits 10 n) = some n := by
    rw [decimalDigitsValue?, if_neg (by simpa using hdigits)]
    exact congrArg some hfold
  unfold signedValue?
  split
  · next heq => exact absurd (hdigits '-' (by simp [heq])) (by decide)
  · rw [hvalue]
    rfl

/-- The decimal text of a number is read as the number, unless it is too long to be read. -/
theorem integerOfText_toDigits (n : Nat) :
    integerOfText (Nat.toDigits 10 n) =
      if (Nat.toDigits 10 n).length ≤ maxIntegerLength then .ok (n : Int)
      else .fail .oversizedInteger := by
  have hdigits : ∀ c ∈ Nat.toDigits 10 n, isAsciiDigit c = true := fun c hc =>
    isAsciiDigit_of_mem_toDigits hc
  have hplus : (Nat.toDigits 10 n).head? ≠ some '+' := fun hc =>
    absurd (hdigits _ (List.mem_of_mem_head? hc)) (by decide)
  have hread : (significantPart (Nat.toDigits 10 n)).map dropFraction >>= dropUnderscores =
      some (Nat.toDigits 10 n) := by
    rw [significantPart_toDigits, Option.map_some, dropFraction_digits hdigits]
    exact dropUnderscores_digits hdigits
  rw [integerOfText, trimNumeral_digits hdigits]
  split
  · next heq => simp [heq] at hplus
  · simp only [hplus, decide_false, Bool.false_and, Bool.false_eq_true, if_false, hread,
      signedValue?_toDigits, ← Nat.not_le, ite_not]

theorem toString_ne_empty (n : Nat) : toString n ≠ "" := by
  rw [Nat.toString_eq_ofList_toDigits]
  exact fun h => Nat.toDigits_ne_nil (String.ofList_eq_empty_iff.1 h)

theorem asNatural_toString (n : Nat) :
    (Datum.text (toString n)).asNatural =
      if (toString n).length ≤ maxIntegerLength then .ok n else .fail .oversizedInteger := by
  have htext : (toString n).toList = Nat.toDigits 10 n := by
    rw [Nat.toString_eq_ofList_toDigits, String.toList_ofList]
  have hlength : (toString n).length = (Nat.toDigits 10 n).length := by
    rw [← htext, String.length_toList]
  rw [Datum.asNatural, Datum.asInteger, htext, integerOfText_toDigits, hlength]
  split <;> rfl

end LambdaText
