import LambdaText.Proofs.Code.Padding
import Mathlib.Data.List.Forall2

/-!
# Rows of tokens

Inside brackets a line break is a blank. So a text in parentheses has the same tokens as the text
itself on the last line of a block, as long as its line breaks are inside brackets or quotes.
-/

namespace LambdaText.Code

open LambdaText.Text

/-! ### Reading inside brackets -/

/-- How wide a margin is makes no difference to where it ends. -/
theorem map_margin (col alt joined col' alt' joined' : Nat) (text : List Char) :
    (margin col alt joined text).map (fun found => found.2.2) =
      (margin col' alt' joined' text).map fun found => found.2.2 := by
  fun_induction margin col alt joined text generalizing col' alt' joined' with
  | case1 col alt joined text ih => exact ih _ _ _
  | case2 col alt joined text ih => exact ih _ _ _
  | case3 col alt joined text ih => exact ih _ _ _
  | case4 => rfl
  | case5 col alt joined text hne ih =>
    rw [margin]
    · exact ih _ _ _
    · exact hne
  | case6 col alt joined text hfeed hslash =>
    rw [margin]
    · exact hfeed
    · exact hslash
  | case7 col alt joined text hspace htab hform hslash hslash' hslash'' =>
    rw [margin]
    · split <;> split <;> rfl
    all_goals assumption

theorem margin_slash {text : List Char} (h : joinedLine? text = none) (col alt joined : Nat) :
    margin col alt joined ('\\' :: text) = none := by
  cases text with
  | nil => rfl
  | cons c text =>
    by_cases hc : c = '\n'
    · subst hc
      cases text with
      | nil => rfl
      | cons d text => cases h
    · rw [margin]
      · exact fun heq => hc (List.cons.inj heq).1
      · exact fun rest heq => hc (List.cons.inj heq).1

section Inside

variable {x : Lexer} {text : List Char} {tokens : List Token}

/-- Inside brackets it makes no difference how wide the margin of a line is. -/
theorem lexes_true_congr (hx : x.brackets ≠ []) {other : List Char}
    (h : (margin 0 0 0 text).map (fun found => found.2.2) =
      (margin 0 0 0 other).map fun found => found.2.2) :
    Lexes true x text tokens ↔ Lexes true x other tokens := by
  have hopen : x.brackets.isEmpty = false := by simpa using hx
  have hstep : x.step true text = x.step true other ∧ x.ended true text = x.ended true other := by
    simp only [Lexer.step, Lexer.lineStep, Lexer.ended]
    cases htext : margin 0 0 0 text with
    | none =>
      cases hother : margin 0 0 0 other with
      | none => exact ⟨rfl, rfl⟩
      | some found =>
        rw [htext, hother] at h
        cases h
    | some found =>
      cases hother : margin 0 0 0 other with
      | none =>
        rw [htext, hother] at h
        cases h
      | some found' =>
        rw [htext, hother] at h
        obtain ⟨col, alt, rest⟩ := found
        obtain ⟨col', alt', rest'⟩ := found'
        cases h
        cases rest with
        | nil => simp [Lexer.marginStep, hopen]
        | cons c rest => simp [Lexer.marginStep, hopen]
  cases hnext : x.step true other with
  | none =>
    rw [lexes_iff_of_no_step (hstep.1.trans hnext), lexes_iff_of_no_step hnext, hstep.2]
  | some found =>
    obtain ⟨b, y, rest⟩ := found
    rw [lexes_iff_of_step (hstep.1.trans hnext), lexes_iff_of_step hnext]

theorem lexes_blank {c : Char} (hc : c = ' ' ∨ c = '\t' ∨ c = '\x0c') :
    Lexes false x (c :: text) tokens ↔ Lexes false x text tokens :=
  lexes_iff_of_step (wordStep_blank x text hc)

theorem lexes_comment : Lexes false x ('#' :: text) tokens ↔
    Lexes false x (text.dropWhile (· != '\n')) tokens :=
  lexes_iff_of_step (wordStep_comment x text)

theorem lexes_joined (htext : text ≠ []) :
    Lexes false x ('\\' :: '\n' :: text) tokens ↔ Lexes false x text tokens := by
  refine lexes_iff_of_step ?_
  rw [Lexer.step, wordStep_slash, joinedLine?_of_ne_nil htext]
  rfl

theorem not_lexes_of_no_token {c : Char} (hc : startsToken c = true)
    (h : token? (c :: text) = none) : ¬ Lexes false x (c :: text) tokens := by
  have hstep : x.step false (c :: text) = none := by
    rw [Lexer.step, wordStep_token x text hc, h]
    rfl
  rw [lexes_iff_of_no_step hstep]
  exact nofun

/-- A backslash in front of no other line does not go on. -/
theorem not_lexes_slash (h : joinedLine? text = none) : ¬ Lexes false x ('\\' :: text) tokens := by
  have hstep : x.step false ('\\' :: text) = none := by
    rw [Lexer.step, wordStep_slash, h]
    rfl
  rw [lexes_iff_of_no_step hstep]
  exact nofun

theorem lexes_true_blank (hx : x.brackets ≠ []) {c : Char} (hc : c = ' ' ∨ c = '\t' ∨ c = '\x0c') :
    Lexes true x (c :: text) tokens ↔ Lexes true x text tokens := by
  refine lexes_true_congr hx ?_
  rcases hc with rfl | rfl | rfl <;> exact map_margin _ _ _ _ _ _ text

theorem lexes_true_joined (hx : x.brackets ≠ []) (htext : text ≠ []) :
    Lexes true x ('\\' :: '\n' :: text) tokens ↔ Lexes true x text tokens := by
  refine lexes_true_congr hx ?_
  rw [margin]
  · exact map_margin _ _ _ _ _ _ text
  · exact htext

/-- Inside brackets the start of a line is read as the rest of one. -/
theorem lexes_true_iff (hx : x.brackets ≠ []) :
    Lexes true x text tokens ↔ Lexes false x text tokens := by
  have hopen : x.brackets.isEmpty = false := by simpa using hx
  induction hn : text.length using Nat.strong_induction_on generalizing text with
  | _ n ih =>
    subst hn
    cases text with
    | nil =>
      have hend : ∀ b, x.step b [] = none := by
        intro b
        cases b <;> rfl
      rw [lexes_iff_of_no_step (hend true), lexes_iff_of_no_step (hend false)]
      simp [Lexer.ended, margin, Lexer.finish, hopen]
    | cons c text =>
      have hstop : ∀ {b y rest}, opensMargin c = false →
          x.marginStep 0 0 (c :: text) = some (b, y, rest) →
          (Lexes true x (c :: text) tokens ↔ Lexes b y rest tokens) := by
        intro b y rest hc hstep
        refine lexes_iff_of_step ?_
        rw [Lexer.step, lineStep_of_margin x (margin_stop (by simpa using hc) 0 0 0)]
        exact hstep
      cases hc : startsToken c with
      | true =>
        refine hstop ?_ ?_
        · simp only [startsToken, Bool.not_eq_true', Bool.or_eq_false_iff] at hc
          simp [opensMargin, hc]
        · simp only [startsToken, Bool.not_eq_true', Bool.or_eq_false_iff,
            beq_eq_false_iff_ne] at hc
          rw [Lexer.marginStep, if_neg hc.1.1.2, if_neg hc.1.2, hopen]
          rfl
      | false =>
        rcases cases_of_startsToken hc with hblank | rfl | rfl | rfl
        · rw [lexes_true_blank hx hblank, lexes_blank hblank]
          exact ih _ (Nat.lt_succ_self _) rfl
        · rw [lexes_comment]
          refine (hstop (b := true) rfl rfl).trans ?_
          exact ih _ (Nat.lt_succ_of_le (List.length_dropWhile_le _ _)) rfl
        · have hfeed : x.step false ('\n' :: text) = some (true, x, text) := by
            rw [Lexer.step, wordStep_feed, hopen]
            rfl
          exact (hstop rfl rfl).trans (lexes_iff_of_step hfeed).symm
        · cases hjoined : joinedLine? text with
          | some rest =>
            obtain ⟨rfl, hne⟩ := eq_of_joinedLine hjoined
            rw [lexes_true_joined hx hne, lexes_joined hne]
            exact ih _ (Nat.lt_succ_of_lt (Nat.lt_succ_self _)) rfl
          | none =>
            refine iff_of_false ?_ (not_lexes_slash hjoined)
            have hmargin := margin_slash hjoined 0 0 0
            have hstep : x.step true ('\\' :: text) = none := by
              rw [Lexer.step, Lexer.lineStep, hmargin]
              rfl
            rw [lexes_iff_of_no_step hstep, Lexer.ended, hmargin]
            simp

theorem lexes_feed (hx : x.brackets ≠ []) :
    Lexes false x ('\n' :: text) tokens ↔ Lexes false x text tokens := by
  have hstep : x.step false ('\n' :: text) = some (true, x, text) := by
    have hopen : x.brackets.isEmpty = false := by simpa using hx
    rw [Lexer.step, wordStep_feed, hopen]
    rfl
  exact (lexes_iff_of_step hstep).trans (lexes_true_iff hx)

/-- A token is taken up where it is found. -/
theorem lexes_token {c : Char} (hc : startsToken c = true) {t : Token} {rest : List Char}
    (ht : token? (c :: text) = some (t, rest)) : Lexes false x (c :: text) tokens ↔
      ∃ y, x.take t = some y ∧ Lexes false y rest tokens := by
  have hstep : x.step false (c :: text) = (x.take t).map fun y => (false, y, rest) := by
    rw [Lexer.step, wordStep_token x text hc, ht]
    rfl
  cases htake : x.take t with
  | none =>
    rw [htake] at hstep
    rw [lexes_iff_of_no_step hstep]
    exact iff_of_false nofun nofun
  | some y =>
    rw [htake] at hstep
    rw [lexes_iff_of_step hstep]
    exact ⟨fun h => ⟨y, rfl, h⟩, fun ⟨z, hz, h⟩ => Option.some.inj hz ▸ h⟩

/-- Whether a lexer passes over a text: it makes no tokens of it, and reads what follows as before,
if something does. -/
def Passes (x : Lexer) (front : List Char) : Prop :=
  ∀ ⦃rest : List Char⦄ ⦃tokens : List Token⦄, rest ≠ [] →
    (Lexes false x (front ++ rest) tokens ↔ Lexes false x rest tokens)

theorem passes_blank {c : Char} (hc : c = ' ' ∨ c = '\t' ∨ c = '\x0c') : Passes x [c] :=
  fun _ _ _ => lexes_blank hc

theorem passes_feed (hx : x.brackets ≠ []) : Passes x ['\n'] :=
  fun _ _ _ => lexes_feed hx

theorem passes_joined : Passes x ['\\', '\n'] :=
  fun _ _ hrest => lexes_joined hrest

theorem Passes.append {front other : List Char} (h : Passes x front) (h' : Passes x other) :
    Passes x (front ++ other) := fun _ _ hrest => by
  rw [List.append_assoc, h (by simp [hrest]), h' hrest]

theorem passes_margin {margin : List Char} (h : ∀ c ∈ margin, isMarginChar c = true) :
    Passes x margin := by
  induction margin with
  | nil => exact fun _ _ _ => Iff.rfl
  | cons c margin ih =>
    have hc := isMarginChar_iff.1 (h c (by simp))
    exact (passes_blank (hc.imp_right .inl)).append (ih fun d hd => h d (by simp [hd]))

end Inside

theorem token?_blank {c : Char} (hc : isBlank c = true) (text : List Char) :
    token? (c :: text) = none := by
  cases h : token? (c :: text) with
  | none => rfl
  | some found =>
    obtain ⟨t, rest⟩ := found
    rcases token?_cases h with ⟨⟨taken, htext, htaken, -⟩, hlt, -⟩ |
      ⟨run, q, triple, after, body, hrun, hq, htext, -, -, -⟩
    · cases taken with
      | nil =>
        rw [htext] at hlt
        exact absurd hlt (Nat.lt_irrefl _)
      | cons d taken =>
        rw [(List.cons.inj htext).1, htaken d (by simp)] at hc
        cases hc
    · have hfront := noBlank_opening hrun hq triple
      rw [← List.append_assoc] at htext
      cases hmark : run ++ closing q triple with
      | nil => cases triple <;> simp [closing] at hmark
      | cons d front =>
        rw [hmark] at htext hfront
        rw [(List.cons.inj htext).1, hfront d (by simp)] at hc
        cases hc

/-- A blank that is passed over within a line is one of three. -/
theorem lexes_blank_cases {x : Lexer} {c : Char} {text : List Char} {tokens : List Token}
    (hc : isBlank c = true) (hfeed : c ≠ '\n') (h : Lexes false x (c :: text) tokens) :
    c = ' ' ∨ c = '\t' ∨ c = '\x0c' := by
  cases hstart : startsToken c with
  | true => exact absurd h (not_lexes_of_no_token hstart (token?_blank hc text))
  | false =>
    rcases cases_of_startsToken hstart with h | rfl | rfl | rfl
    · exact h
    · cases hc
    · exact absurd rfl hfeed
    · cases hc

/-! ### Two readings of one text -/

/-- A comment ends alike where only margins differ. -/
theorem Repads.comment {text padded : List Char} (h : Repads text padded) :
    ∃ taken text' padded', text = taken ++ text' ∧ Repads text' padded' ∧
      padded'.length ≤ padded.length ∧ (∀ c ∈ taken, c ≠ '\n') ∧ text'.head?.all (· == '\n') ∧
      (padded ++ ['\n']).dropWhile (· != '\n') = padded' ++ ['\n'] := by
  have hmargin : ∀ {l : List Char}, (∀ c ∈ l, isMarginChar c = true) → ∀ c ∈ l, c ≠ '\n' := by
    rintro l hl c hc rfl
    cases hl _ hc
  induction h with
  | @done gap hgap =>
    refine ⟨[], [], [], rfl, .done (by simp), Nat.zero_le _, by simp, rfl, ?_⟩
    refine dropWhile_append_stop (fun c hc => ?_) rfl
    rw [bne_iff_ne]
    rintro rfl
    cases (hgap _ hc).2
  | @char c text padded hc h ih =>
    obtain ⟨taken, text', padded', rfl, h', hlen, htaken, hhead, hdrop⟩ := ih
    have hfeed : c ≠ '\n' := by
      rintro rfl
      cases hc
    refine ⟨c :: taken, text', padded', rfl, h', Nat.le_succ_of_le hlen, ?_, hhead, ?_⟩
    · intro d hd
      rcases List.mem_cons.1 hd with rfl | hd
      · exact hfeed
      · exact htaken d hd
    · rw [List.cons_append, List.dropWhile_cons_of_pos (by simpa using hfeed), hdrop]
  | @line b old new text padded hb hold hnew hne h ih =>
    by_cases hfeed : b = '\n'
    · subst hfeed
      exact ⟨[], _, _, rfl, .line hb hold hnew hne h, Nat.le_refl _, by simp, rfl, rfl⟩
    · obtain ⟨taken, text', padded', rfl, h', hlen, htaken, hhead, hdrop⟩ := ih
      refine ⟨b :: (old ++ taken), text', padded', by simp, h', ?_, ?_, hhead, ?_⟩
      · simp only [List.length_cons, List.length_append]
        omega
      · intro d hd
        rcases List.mem_cons.1 hd with rfl | hd
        · exact hfeed
        · rcases List.mem_append.1 hd with hd | hd
          · exact hmargin hold d hd
          · exact htaken d hd
      · rw [List.cons_append, List.dropWhile_cons_of_pos (by simpa using hfeed), List.append_assoc,
          List.dropWhile_append_of_pos (fun d hd => by simpa using hmargin hnew d hd), hdrop]

/-- A line is joined to the next one where only margins differ. -/
theorem Repads.joined {text padded : List Char} {x : Lexer} {tokens : List Token}
    (h : Repads text padded) (hx : Lexes false x ('\\' :: (padded ++ ['\n'])) tokens) :
    ∃ old new text' padded', text = '\n' :: (old ++ text') ∧ padded = '\n' :: (new ++ padded') ∧
      (∀ c ∈ old, isMarginChar c = true) ∧ (∀ c ∈ new, isMarginChar c = true) ∧
      Repads text' padded' := by
  cases hjoined : joinedLine? (padded ++ ['\n']) with
  | none => exact absurd hx (not_lexes_slash hjoined)
  | some rest =>
    obtain ⟨heq, hne⟩ := eq_of_joinedLine hjoined
    cases h with
    | done hgap =>
      cases padded with
      | nil => exact absurd (List.cons.inj heq).2.symm hne
      | cons c gap =>
        obtain rfl := (List.cons.inj heq).1
        cases (hgap '\n' (by simp)).2
    | char hc h =>
      obtain rfl := (List.cons.inj heq).1
      cases hc
    | line hb hold hnew _ h =>
      obtain rfl := (List.cons.inj heq).1
      exact ⟨_, _, _, _, rfl, rfl, hold, hnew, h⟩

/-- A lexer, and one that reads the same text in parentheses and on one line with them. -/
structure Paired (x y : Lexer) : Prop where
  brackets : y.brackets = x.brackets ++ [')']
  margins : x.margins.length = 2
  margins' : y.margins.length = 1

theorem Paired.ne_nil {x y : Lexer} (h : Paired x y) : y.brackets ≠ [] := by
  rw [h.brackets]
  simp

/-- What a sign does to the brackets it does behind a parenthesis too. -/
theorem Paired.sign {x y x' y' : Lexer} (h : Paired x y) {s : String} (hx : x.sign s = some x')
    (hy : y.sign s = some y') : Paired x' y' ∧ x'.tokens = .sign s :: x.tokens ∧
      y'.tokens = .sign s :: y.tokens := by
  obtain ⟨brackets, margins, tokens⟩ := x
  obtain ⟨brackets', margins', tokens'⟩ := y
  obtain ⟨rfl, hm, hm'⟩ := h
  -- An opening bracket, a closing one, or another sign.
  simp only [Lexer.sign, Lexer.push] at hx hy
  split at hx <;> simp_all only
  iterate 3
    · split at hx
      · split at hy
        · cases hx
          cases hy
          exact ⟨⟨rfl, hm, hm'⟩, rfl, rfl⟩
        · cases hy
      · cases hx
  iterate 3
    · cases brackets with
      | nil => cases hx
      | cons c brackets =>
        simp only [List.cons_append] at hx hy
        split at hx
        · next hc =>
          rw [if_pos hc] at hy
          cases hx
          cases hy
          exact ⟨⟨rfl, hm, hm'⟩, rfl, rfl⟩
        · cases hx
  · cases hx
    cases hy
    exact ⟨⟨rfl, hm, hm'⟩, rfl, rfl⟩

/-- The tokens of two readings are taken up alike. -/
theorem Paired.take {x y x' y' : Lexer} (h : Paired x y) {t t' : Token} (hsame : SameToken t t')
    (hx : x.take t' = some x') (hy : y.take t = some y') :
    Paired x' y' ∧ x'.tokens = t' :: x.tokens ∧ y'.tokens = t :: y.tokens := by
  have hpush : ∀ {t t'}, x.push t' = x' → y.push t = y' →
      Paired x' y' ∧ x'.tokens = t' :: x.tokens ∧ y'.tokens = t :: y.tokens := by
    rintro t t' rfl rfl
    exact ⟨⟨h.brackets, h.margins, h.margins'⟩, rfl, rfl⟩
  cases hsame with
  | same =>
    cases t with
    | sign s => exact h.sign hx hy
    | _ => exact hpush (Option.some.inj hx) (Option.some.inj hy)
  | quoted => exact hpush (Option.some.inj hx) (Option.some.inj hy)

/-- The line feeds of a text stand inside brackets or quotes: where one stands, the line cannot end
with the parenthesis that is due. -/
def FeedsEnclosed (y : Lexer) (text : List Char) : Prop :=
  ∀ before after, text = before ++ '\n' :: after →
    ∀ tokens, ¬ Lexes false y (before ++ ['\n', ')']) tokens

theorem FeedsEnclosed.of_step {y y' : Lexer} (taken : List Char) {text : List Char}
    (h : FeedsEnclosed y (taken ++ text))
    (hstep : ∀ {before after : List Char} {tokens : List Token}, text = before ++ '\n' :: after →
      Lexes false y' (before ++ ['\n', ')']) tokens →
      Lexes false y (taken ++ (before ++ ['\n', ')'])) tokens) : FeedsEnclosed y' text := by
  rintro before after rfl tokens hlexes
  refine h (taken ++ before) after (by simp) tokens ?_
  rw [List.append_assoc]
  exact hstep rfl hlexes

/-- Behind what is passed over line feeds are enclosed as before. -/
theorem FeedsEnclosed.passes {y : Lexer} {front text : List Char}
    (h : FeedsEnclosed y (front ++ text)) (hfront : Passes y front) : FeedsEnclosed y text :=
  .of_step front h fun _ hl => (hfront (by simp)).2 hl

theorem FeedsEnclosed.token {y y' : Lexer} {c : Char} {text text' : List Char} {t : Token}
    (h : FeedsEnclosed y (c :: text)) (hc : startsToken c = true)
    (ht : token? (c :: text ++ ['\n', ')']) = some (t, text' ++ ['\n', ')']))
    (htake : y.take t = some y') : FeedsEnclosed y' text' := by
  obtain ⟨hlt, taken, htext, htaken⟩ := eq_append_of_token ht
  rw [← List.append_assoc] at htext
  have htext := List.append_cancel_right htext
  rw [htext] at h
  refine .of_step taken h fun {before after tokens} heq hl => ?_
  cases taken with
  | nil =>
    rw [htext] at hlt
    exact absurd hlt (Nat.lt_irrefl _)
  | cons d taken =>
    obtain ⟨rfl, -⟩ := List.cons.inj htext
    refine (lexes_token hc ?_).2 ⟨y', htake, hl⟩
    subst heq
    refine htaken _ ?_ ?_
    · rw [List.append_assoc]
      exact Similar.append before (.blank rfl (.inl rfl))
    · cases before <;> rfl

/-- The text behind a comment and its line feed. -/
theorem dropWhile_comment {taken rest : List Char} (htaken : ∀ c ∈ taken, c ≠ '\n')
    (hrest : rest.head?.all (· == '\n')) (tail : List Char) :
    (taken ++ (rest ++ '\n' :: tail)).dropWhile (· != '\n') = rest ++ '\n' :: tail := by
  refine dropWhile_append_stop (fun c hc => by simpa using htaken c hc) ?_
  cases rest with
  | nil => rfl
  | cons c rest => simpa using hrest

theorem FeedsEnclosed.comment {y : Lexer} {taken text : List Char}
    (h : FeedsEnclosed y ('#' :: (taken ++ text))) (htaken : ∀ c ∈ taken, c ≠ '\n')
    (hhead : text.head?.all (· == '\n')) : FeedsEnclosed y text := by
  refine .of_step ('#' :: taken) h fun {before after tokens} heq hl => ?_
  rw [List.cons_append, lexes_comment, dropWhile_comment htaken]
  · exact hl
  · subst heq
    cases before with
    | nil => rfl
    | cons c before => simpa using hhead

/-- The parenthesis behind a text in parentheses. -/
theorem lexes_close {y : Lexer} (hbrackets : y.brackets = [')']) (hmargins : y.margins.length = 1)
    (tokens : List Token) : Lexes false y ['\n', ')'] tokens ↔
      tokens = y.tokens.reverse ++ [.sign ")", .newline] := by
  have ht : token? [')'] = some (.sign ")", []) := by rfl
  rw [lexes_feed (by simp [hbrackets]), lexes_token rfl ht]
  obtain ⟨brackets, margins, out⟩ := y
  subst hbrackets
  have hsign : Lexer.take ⟨[')'], margins, out⟩ (.sign ")") =
      some ⟨[], margins, .sign ")" :: out⟩ := rfl
  have hend : ∀ z : Lexer, z.step false [] = none := fun z => rfl
  rw [hsign]
  simp only [Option.some.injEq, exists_eq_left', lexes_iff_of_no_step (hend _), Lexer.ended]
  simp [Lexer.finish, hmargins, eq_comm]

theorem lexes_end {x : Lexer} (hmargins : x.margins.length = 2) {tokens : List Token}
    (h : Lexes false x ['\n'] tokens) :
    x.brackets = [] ∧ tokens = x.tokens.reverse ++ [.newline, .dedent] := by
  obtain ⟨brackets, margins, out⟩ := x
  have hend : ∀ (b : Bool) (z : Lexer), z.step b [] = none := by
    intro b z
    cases b <;> rfl
  cases brackets with
  | nil =>
    have hstep : Lexer.step ⟨[], margins, out⟩ false ['\n'] =
        some (true, ⟨[], margins, .newline :: out⟩, []) := rfl
    rw [lexes_iff_of_step hstep, lexes_iff_of_no_step (hend _ _)] at h
    have hmargins : margins.length = 2 := hmargins
    simp [Lexer.ended, margin, Lexer.finish, hmargins] at h
    exact ⟨rfl, by simp [h]⟩
  | cons c brackets =>
    rw [lexes_feed (by simp), lexes_iff_of_no_step (hend _ _)] at h
    cases h

/-- What is left of a text and of the same text with other margins, after the same tokens. -/
theorem Repads.rows {text padded : List Char} {x y : Lexer} {tokens tokens' : List Token}
    (h : Repads text padded) (hpair : Paired x y) (hfeeds : FeedsEnclosed y text)
    (hx : Lexes false x (padded ++ ['\n']) tokens')
    (hy : Lexes false y (text ++ ['\n', ')']) tokens) :
    ∃ row row', List.Forall₂ SameToken row row' ∧
      tokens' = x.tokens.reverse ++ row' ++ [.newline, .dedent] ∧
      tokens = y.tokens.reverse ++ row ++ [.sign ")", .newline] := by
  induction hn : padded.length using Nat.strong_induction_on
    generalizing text padded x y with
  | _ n ih =>
    subst hn
    -- The induction is on what is left of the text, of which something is passed over or taken.
    have hskip : ∀ (front front' : List Char) {text' padded' : List Char},
        text = front ++ text' → padded = front' ++ padded' → front' ≠ [] →
        Repads text' padded' → Passes x front' → Passes y front →
        ∃ row row', List.Forall₂ SameToken row row' ∧
          tokens' = x.tokens.reverse ++ row' ++ [.newline, .dedent] ∧
          tokens = y.tokens.reverse ++ row ++ [.sign ")", .newline] := by
      rintro front front' text' padded' rfl rfl hne h' hfront' hfront
      rw [List.append_assoc, hfront' (by simp)] at hx
      rw [List.append_assoc, hfront (by simp)] at hy
      have hlt := List.length_pos_iff.2 hne
      refine ih _ ?_ h' hpair (hfeeds.passes hfront) hx hy rfl
      rw [List.length_append]
      omega
    cases h with
    | @done gap hgap =>
      -- Blanks at the end of the block.
      cases padded with
      | nil =>
        obtain ⟨hbrackets, rfl⟩ := lexes_end hpair.margins hx
        rw [List.nil_append, lexes_close (by rw [hpair.brackets, hbrackets]; rfl) hpair.margins']
          at hy
        exact ⟨[], [], .nil, by simp, by simp [hy]⟩
      | cons c gap =>
        obtain ⟨hblank, hbreak⟩ := hgap c (by simp)
        have hfeed : c ≠ '\n' := by
          rintro rfl
          cases hbreak
        exact hskip [] [c] rfl rfl (by simp) (.done fun d hd => hgap d (by simp [hd]))
          (passes_blank (lexes_blank_cases hblank hfeed hx)) fun _ _ _ => Iff.rfl
    | @char c text padded hc h =>
      cases hstart : startsToken c with
      | true =>
        cases ht : token? (c :: (padded ++ ['\n'])) with
        | none => exact absurd hx (not_lexes_of_no_token hstart ht)
        | some found =>
          obtain ⟨t', rest⟩ := found
          obtain ⟨t, text', padded', rfl, h', ht', hsame⟩ := (h.char hc).token ht [')']
          obtain ⟨x', htake, hx'⟩ := (lexes_token hstart ht).1 hx
          obtain ⟨y', htake', hy'⟩ := (lexes_token hstart ht').1 hy
          obtain ⟨hpair', hout, hout'⟩ := hpair.take hsame htake htake'
          have hlt : padded'.length < (c :: padded).length := by
            simpa using (eq_append_of_token ht).1
          obtain ⟨row, row', hrows, rfl, rfl⟩ :=
            ih _ hlt h' hpair' (hfeeds.token hstart ht' htake') hx' hy' rfl
          exact ⟨t :: row, t' :: row', .cons hsame hrows, by simp [hout], by simp [hout']⟩
      | false =>
        rcases cases_of_startsToken hstart with hblank | rfl | rfl | rfl
        · exact hskip [c] [c] rfl rfl (by simp) h (passes_blank hblank) (passes_blank hblank)
        · obtain ⟨taken, text', padded', rfl, h', hlen, htaken, hhead, hdrop⟩ := h.comment
          rw [List.cons_append, lexes_comment, hdrop] at hx
          rw [List.cons_append, List.append_assoc, lexes_comment,
            dropWhile_comment htaken hhead] at hy
          exact ih _ (Nat.lt_succ_of_le hlen) h' hpair (hfeeds.comment htaken hhead) hx hy rfl
        · cases hc
        · obtain ⟨old, new, text', padded', rfl, rfl, hold, hnew, h'⟩ := h.joined hx
          exact hskip ('\\' :: '\n' :: old) ('\\' :: '\n' :: new) rfl rfl (by simp) h'
            (passes_joined.append (passes_margin hnew)) (passes_joined.append (passes_margin hold))
    | @line b old new text padded hb hold hnew hne h =>
      by_cases hfeed : b = '\n'
      · subst hfeed
        have hopen : x.brackets ≠ [] := by
          intro hnil
          refine hfeeds [] _ rfl _ ((lexes_close ?_ hpair.margins' _).2 rfl)
          rw [hpair.brackets, hnil]
          rfl
        exact hskip ('\n' :: old) ('\n' :: new) rfl rfl (by simp) h
          ((passes_feed hopen).append (passes_margin hnew))
          ((passes_feed hpair.ne_nil).append (passes_margin hold))
      · have hblank := lexes_blank_cases (isBlank_of_isLineBreak hb) hfeed hx
        exact hskip (b :: old) (b :: new) rfl rfl (by simp) h
          ((passes_blank hblank).append (passes_margin hnew))
          ((passes_blank hblank).append (passes_margin hold))

theorem rows_eq_iff {row row' : List Token} (h : List.Forall₂ SameToken row row') :
    row' = row ↔ ∀ t ∈ row, t.holdsBreak = false := by
  induction h with
  | nil => simp
  | cons hsame _ ih => simp [hsame.eq_iff, ih]

end LambdaText.Code
