import LambdaText.Proofs.Code.Brackets
import LambdaText.Proofs.Code.Steps

/-!
# Texts with tokens are balanced

Where the lexer takes a step, the scan of brackets passes over the same characters and comes to the
same brackets that are due. So a text that has tokens is balanced.
-/

namespace LambdaText.Code

open LambdaText.Text Brackets

/-! ### Passing over characters -/

/-- A class of characters without a meaning for brackets. -/
theorem isNeutral_of {test : Char → Bool} (h : marks.any test = false) {c : Char}
    (hc : test c = true) : isNeutral c = true := by
  rw [isNeutral, Bool.not_eq_true', List.contains_eq_mem, decide_eq_false_iff_not]
  intro hmem
  exact List.any_eq_false.1 h c hmem hc

/-- Whether what stands before the rest of a text has no meaning for brackets. -/
def Skips (text rest : List Char) : Prop :=
  ∃ taken, text = taken ++ rest ∧ ∀ c ∈ taken, isNeutral c = true

section Skips

variable {text middle rest : List Char}

theorem Skips.refl (text : List Char) : Skips text text := ⟨[], rfl, by simp⟩

theorem Skips.trans (h : Skips text middle) (h' : Skips middle rest) : Skips text rest := by
  obtain ⟨taken, rfl, htaken⟩ := h
  obtain ⟨more, rfl, hmore⟩ := h'
  refine ⟨taken ++ more, by rw [List.append_assoc], fun c hc => ?_⟩
  exact (List.mem_append.1 hc).elim (htaken c) (hmore c)

theorem Skips.cons {c : Char} (hc : isNeutral c = true) (h : Skips text rest) :
    Skips (c :: text) rest := by
  obtain ⟨taken, rfl, htaken⟩ := h
  exact ⟨c :: taken, rfl, List.forall_mem_cons.2 ⟨hc, htaken⟩⟩

theorem Skips.tail {test : Char → Bool} (htest : marks.any test = false)
    (hhead : text.head?.any test = true) (h : Skips text.tail rest) : Skips text rest := by
  cases text with
  | nil => cases hhead
  | cons c text => exact .cons (isNeutral_of htest hhead) h

theorem Skips.due? (h : Skips text rest) (due : List Char) :
    Brackets.due? (.code, due) text = Brackets.due? (.code, due) rest := by
  obtain ⟨taken, rfl, htaken⟩ := h
  exact due?_neutral htaken due rest

end Skips

/-! ### Numerals -/

section Numerals

variable {isDig : Char → Bool} {text rest ds : List Char} {n : Numeral}

theorem skips_moreDigits (hdig : marks.any isDig = false)
    (h : moreDigits isDig text = some (ds, rest)) : Skips text rest := by
  fun_induction moreDigits isDig text generalizing ds with
  | case1 =>
    cases h
    exact .refl _
  | case2 => cases h
  | case3 d text hd ih =>
    obtain ⟨⟨ds, r⟩, hmore, ⟨⟩⟩ := Option.map_eq_some_iff.1 h
    exact .cons (by decide) (.cons (isNeutral_of hdig hd) (ih hmore))
  | case4 => cases h
  | case5 d text hne hne' hd ih =>
    obtain ⟨⟨ds, r⟩, hmore, ⟨⟩⟩ := Option.map_eq_some_iff.1 h
    exact .cons (isNeutral_of hdig hd) (ih hmore)
  | case6 =>
    cases h
    exact .refl _

theorem skips_digitRun (hdig : marks.any isDig = false)
    (h : digitRun isDig text = some (ds, rest)) : Skips text rest := by
  cases text with
  | nil => cases h
  | cons c text =>
    rw [digitRun] at h
    split at h
    · next hc =>
      obtain ⟨⟨ds, r⟩, hmore, ⟨⟩⟩ := Option.map_eq_some_iff.1 h
      exact .cons (isNeutral_of hdig hc) (skips_moreDigits hdig hmore)
    · cases h

theorem skips_closeNumeral {n' : Numeral} (h : closeNumeral n' text = some (n, rest)) :
    Skips text rest := by
  rw [closeNumeral] at h
  split at h
  · cases h
    exact .refl _
  · cases h

theorem skips_closeDecimal {whole fraction : List Char} {e : Int}
    (h : closeDecimal whole fraction e text = some (n, rest)) : Skips text rest := by
  cases text with
  | nil => exact skips_closeNumeral h
  | cons c text =>
    simp only [closeDecimal] at h
    split at h
    · next hc => rcases hc with rfl | rfl <;> exact .cons (by decide) (skips_closeNumeral h)
    · exact skips_closeNumeral h

theorem skips_exponent {e : Int} (h : exponent? text = some (e, rest)) : Skips text rest := by
  unfold exponent? at h
  split at h
  all_goals
    obtain ⟨⟨ds, r⟩, hdigits, ⟨⟩⟩ := Option.map_eq_some_iff.1 h
    have hpass := skips_digitRun (show marks.any isAsciiDigit = false by decide) hdigits
  · exact .cons (by decide) hpass
  · exact .cons (by decide) hpass
  · exact hpass

theorem skips_decimalTail {whole fraction : List Char}
    (h : decimalTail whole fraction text = some (n, rest)) : Skips text rest := by
  unfold decimalTail at h
  split at h
  · split at h
    · next hc =>
      split at h
      · split at h
        · obtain ⟨⟨e, r⟩, he, hclose⟩ := Option.bind_eq_some_iff.1 h
          have hpass := (skips_exponent he).trans (skips_closeDecimal hclose)
          rcases hc with rfl | rfl <;> exact .cons (by decide) hpass
        · exact skips_closeDecimal h
      · cases h
    · exact skips_closeDecimal h
  · exact skips_closeDecimal h

theorem skips_fraction {whole : List Char} (h : fraction? whole text = some (n, rest)) :
    Skips text rest := by
  unfold fraction? at h
  split at h
  · split at h
    · obtain ⟨⟨ds, r⟩, hdigits, htail⟩ := Option.bind_eq_some_iff.1 h
      exact (skips_digitRun (by decide) hdigits).trans (skips_decimalTail htail)
    · exact skips_decimalTail h
  · exact skips_decimalTail h

theorem skips_closeInteger (h : closeInteger ds text = some (n, rest)) : Skips text rest := by
  unfold closeInteger at h
  split at h
  · exact skips_closeNumeral h
  · cases h

theorem skips_afterWhole (h : afterWhole ds text = some (n, rest)) : Skips text rest := by
  unfold afterWhole at h
  split at h
  · next hc => exact .tail (by decide) hc (skips_fraction h)
  · split at h
    · next hc => exact .tail (by decide) hc (skips_closeNumeral h)
    · split at h
      · cases h
      · split at h
        · exact skips_decimalTail h
        · exact skips_closeInteger h

theorem skips_decimalNumeral (h : decimalNumeral text = some (n, rest)) : Skips text rest := by
  rw [decimalNumeral_eq] at h
  obtain ⟨⟨ds, r⟩, hdigits, hafter⟩ := Option.bind_eq_some_iff.1 h
  exact (skips_digitRun (by decide) hdigits).trans (skips_afterWhole hafter)

theorem skips_basedNumeral {base : Nat} (hdig : marks.any isDig = false)
    (h : basedNumeral base isDig text = some (n, rest)) : Skips text rest := by
  have hrun {text : List Char} (h : (digitRun isDig text).bind (fun found =>
      closeNumeral (.int (digitsValue base found.1)) found.2) = some (n, rest)) :
      Skips text rest := by
    obtain ⟨⟨ds, r⟩, hdigits, hclose⟩ := Option.bind_eq_some_iff.1 h
    exact (skips_digitRun hdig hdigits).trans (skips_closeNumeral hclose)
  unfold basedNumeral at h
  dsimp only at h
  split at h
  · exact .cons (by decide) (hrun h)
  · exact hrun h

/-- The characters of a numeral have no meaning for brackets. -/
theorem skips_numeral (h : numeral? text = some (n, rest)) : Skips text rest := by
  unfold numeral? at h
  split at h
  · exact .cons (by decide) (skips_fraction h)
  · split at h
    · next hc =>
      have hpass := skips_basedNumeral (by decide) h
      rcases hc with rfl | rfl <;> exact .cons (by decide) (.cons (by decide) hpass)
    · split at h
      · next hc =>
        have hpass := skips_basedNumeral (by decide) h
        rcases hc with rfl | rfl <;> exact .cons (by decide) (.cons (by decide) hpass)
      · split at h
        · next hc =>
          have hpass := skips_basedNumeral (by decide) h
          rcases hc with rfl | rfl <;> exact .cons (by decide) (.cons (by decide) hpass)
        · exact skips_decimalNumeral h
  · exact skips_decimalNumeral h

end Numerals

/-! ### Margins and tokens -/

theorem skips_margin {col alt joined c a : Nat} {text rest : List Char}
    (h : margin col alt joined text = some (c, a, rest)) : Skips text rest := by
  fun_induction margin col alt joined text with
  | case1 col alt joined text ih => exact .cons (by decide) (ih h)
  | case2 col alt joined text ih => exact .cons (by decide) (ih h)
  | case3 col alt joined text ih => exact .cons (by decide) (ih h)
  | case4 => cases h
  | case5 col alt joined text hne ih => exact .cons (by decide) (.cons (by decide) (ih h))
  | case6 => cases h
  | case7 =>
    split at h <;>
    · cases h
      exact .refl _

theorem signs_neutral : ∀ s ∈ signs,
    s.toList ∈ [['('], ['['], ['\x7b'], [')'], [']'], ['\x7d']] ∨ s.toList.all isNeutral = true := by
  decide

theorem due?_sign {s : String} (hs : s ∈ signs) {x y : Lexer} (h : x.sign s = some y)
    (rest : List Char) :
    Brackets.due? (.code, x.brackets) (s.toList ++ rest) =
      Brackets.due? (.code, y.brackets) rest := by
  unfold Lexer.sign at h
  dsimp only at h
  split at h
  case h_7 hround hsquare hcurly hround' hsquare' hcurly' =>
    cases h
    rcases signs_neutral s hs with hbracket | hneutral
    · simp only [List.mem_cons, List.not_mem_nil, or_false] at hbracket
      rcases hbracket with hs | hs | hs | hs | hs | hs
      exacts [(hround hs).elim, (hsquare hs).elim, (hcurly hs).elim, (hround' hs).elim,
        (hsquare' hs).elim, (hcurly' hs).elim]
    · exact due?_neutral (List.all_eq_true.1 hneutral) _ rest
  case h_1 hs | h_2 hs | h_3 hs =>
    split at h
    · cases h
      rw [hs]
      exact due?_cons_of rfl rest
    · cases h
  case h_4 hs | h_5 hs | h_6 hs =>
    cases hdue : x.brackets with
    | nil =>
      rw [hdue] at h
      cases h
    | cons c due =>
      rw [hdue] at h
      dsimp only at h
      split at h
      · next hc =>
        cases h
        rw [hs, hc]
        exact due?_cons_of rfl rest
      · cases h

theorem due?_wordToken {text rest : List Char} {t : Token} (hnumeral : startsNumeral text = false)
    (hname : text.head?.any mayBelongToName = true) (ht : wordToken? text = some (t, rest))
    {x y : Lexer} (h : x.take t = some y) :
    Brackets.due? (.code, x.brackets) text = Brackets.due? (.code, y.brackets) rest := by
  obtain ⟨run, after, rfl, hrun, hafter, -, hall, -, -⟩ := exists_word hnumeral hname
  have hneutral : ∀ c ∈ run, isNeutral c = true := fun c hc => isNeutral_of (by decide) (hall c hc)
  rw [wordToken?, hrun, hafter] at ht
  rw [due?_neutral hneutral]
  dsimp only at ht
  split at ht
  · obtain ⟨⟨body, r⟩, hbody, ⟨⟩⟩ := Option.map_eq_some_iff.1 ht
    obtain ⟨q, triple, after, hq, rfl, hopen, hcloses⟩ := quotedBody?_eq_some.1 hbody
    cases h
    exact due?_literal ⟨q, hq⟩ hopen hcloses _
  · obtain ⟨t, hword, ⟨⟩⟩ := Option.map_eq_some_iff.1 ht
    rw [take_nameToken x hword] at h
    cases h
    rfl

/-- A token that is taken up is passed over by the scan. -/
theorem due?_token {text rest : List Char} {t : Token} (ht : token? text = some (t, rest))
    {x y : Lexer} (h : x.take t = some y) :
    Brackets.due? (.code, x.brackets) text = Brackets.due? (.code, y.brackets) rest := by
  unfold token? at ht
  cases hnumeral : startsNumeral text with
  | true =>
    rw [hnumeral, if_pos rfl] at ht
    obtain ⟨⟨n, r⟩, hn, ⟨⟩⟩ := Option.map_eq_some_iff.1 ht
    cases h
    exact (skips_numeral hn).due? _
  | false =>
    rw [hnumeral, if_neg Bool.false_ne_true] at ht
    split at ht
    · obtain ⟨⟨body, r⟩, hbody, ⟨⟩⟩ := Option.map_eq_some_iff.1 ht
      obtain ⟨q, triple, after, hq, rfl, hopen, hcloses⟩ := quotedBody?_eq_some.1 hbody
      cases h
      exact due?_literal ⟨q, hq⟩ hopen hcloses _
    · split at ht
      · next hname => exact due?_wordToken hnumeral hname ht h
      · obtain ⟨⟨s, r⟩, hs, ⟨⟩⟩ := Option.map_eq_some_iff.1 ht
        obtain ⟨hfound, rfl⟩ := eq_append_of_sign hs
        exact due?_sign (List.mem_of_find?_eq_some hfound) h _

/-! ### Steps and runs -/

theorem brackets_startLine {x y : Lexer} {col alt : Nat} (h : x.startLine col alt = some y) :
    y.brackets = x.brackets := by
  unfold Lexer.startLine at h
  split at h
  · cases h
  · split at h
    · split at h
      · cases h
        rfl
      · cases h
    · split at h
      · split at h
        · cases h
          rfl
        · cases h
      · split at h
        · split at h
          · cases h
            rfl
          · cases h
        · cases h

theorem due?_lineStep {x y : Lexer} {lineStart : Bool} {text rest : List Char}
    (h : x.lineStep text = some (lineStart, y, rest)) :
    Brackets.due? (.code, x.brackets) text = Brackets.due? (.code, y.brackets) rest := by
  obtain ⟨⟨col, alt, text'⟩, hmargin, hstep⟩ := Option.bind_eq_some_iff.1 h
  rw [(skips_margin hmargin).due?]
  cases text' with
  | nil => cases hstep
  | cons c text =>
    simp only [Lexer.marginStep] at hstep
    split at hstep
    · next hc =>
      subst hc
      cases hstep
      exact due?_comment _ _
    · split at hstep
      · next hc =>
        subst hc
        cases hstep
        exact due?_cons_of (step_neutral (by decide) _) _
      · obtain ⟨z, hz, heq⟩ := Option.map_eq_some_iff.1 hstep
        cases heq
        split at hz
        · rw [brackets_startLine hz]
        · cases hz
          rfl

theorem due?_wordStep {x y : Lexer} {lineStart : Bool} {text rest : List Char}
    (h : x.wordStep text = some (lineStart, y, rest)) :
    Brackets.due? (.code, x.brackets) text = Brackets.due? (.code, y.brackets) rest := by
  cases text with
  | nil => cases h
  | cons c text =>
    cases hc : startsToken c with
    | true =>
      obtain ⟨t, ht, htake, rfl⟩ := wordStep_eq_some_of_token hc h
      exact due?_token ht htake
    | false =>
      rcases cases_of_startsToken hc with hblank | rfl | rfl | rfl
      · rw [wordStep_blank x text hblank] at h
        cases h
        refine due?_cons_of (step_neutral ?_ _) _
        rcases hblank with rfl | rfl | rfl <;> decide
      · rw [wordStep_comment] at h
        cases h
        exact due?_comment _ _
      · rw [wordStep_feed] at h
        cases h
        rw [due?_cons_of (step_neutral (by decide) _)]
        split <;> rfl
      · rw [wordStep_slash] at h
        obtain ⟨r, hr, heq⟩ := Option.map_eq_some_iff.1 h
        cases heq
        obtain ⟨rfl, -⟩ := eq_of_joinedLine hr
        rw [due?_cons_of (step_neutral (by decide) _), due?_cons_of (step_neutral (by decide) _)]

theorem due?_step {x y : Lexer} {lineStart lineStart' : Bool} {text rest : List Char}
    (h : x.step lineStart text = some (lineStart', y, rest)) :
    Brackets.due? (.code, x.brackets) text = Brackets.due? (.code, y.brackets) rest := by
  cases lineStart with
  | true => exact due?_lineStep h
  | false => exact due?_wordStep h

theorem brackets_finish {x : Lexer} {tokens : List Token} (h : x.finish = some tokens) :
    x.brackets = [] := by
  unfold Lexer.finish at h
  split at h
  · next hempty => exact List.isEmpty_iff.1 hempty
  · cases h

theorem due?_ended {x : Lexer} {lineStart : Bool} {text : List Char} {tokens : List Token}
    (h : x.ended lineStart text = some tokens) :
    Brackets.due? (.code, x.brackets) text = some [] := by
  cases lineStart with
  | false =>
    cases text with
    | nil => rw [brackets_finish h]; rfl
    | cons c text => cases h
  | true =>
    rw [Lexer.ended] at h
    split at h
    · next col alt hmargin =>
      rw [(skips_margin hmargin).due?]
      have hnone : x.brackets = [] := by
        split at h
        · obtain ⟨y, hy, hfinish⟩ := Option.bind_eq_some_iff.1 h
          rw [← brackets_startLine hy, brackets_finish hfinish]
        · exact brackets_finish h
      rw [hnone]
      rfl
    · cases h

/-- Where the lexer comes to the end of a text, nothing is due. -/
theorem due?_of_lexes {lineStart : Bool} {x : Lexer} {text : List Char} {tokens : List Token}
    (h : Lexes lineStart x text tokens) : Brackets.due? (.code, x.brackets) text = some [] := by
  induction h with
  | step h _ ih => exact (due?_step h).trans ih
  | ended _ hended => exact due?_ended hended

theorem isBalanced_of_tokens {text : List Char} {tokens : List Token}
    (h : tokens? text = some tokens) : IsBalanced (unifyBreaks text) :=
  due?_of_lexes (tokens?_eq_some.1 h)

end LambdaText.Code
