import LambdaText.Text.Lines
import Mathlib.Data.List.Basic

/-!
# Margins of lines, character by character

Taking the common margin off a text and putting one on, seen from within a line: what is left of the
line stays, and only the lines behind it change.
-/

namespace LambdaText.Text

theorem isBlank_of_isLineBreak {c : Char} (h : isLineBreak c = true) : isBlank c = true := by
  simp only [isLineBreak, Bool.or_eq_true, Bool.and_eq_true, decide_eq_true_eq, beq_iff_eq] at h
  simp only [isBlank, Bool.or_eq_true, Bool.and_eq_true, decide_eq_true_eq, beq_iff_eq]
  omega

theorem isMarginChar_iff {c : Char} : isMarginChar c = true ↔ c = ' ' ∨ c = '\t' := by
  simp [isMarginChar]

theorem isBlank_of_isMarginChar {c : Char} (h : isMarginChar c = true) : isBlank c = true := by
  rcases isMarginChar_iff.1 h with rfl | rfl <;> rfl

theorem isLineBreak_eq_false_of_not_blank {c : Char} (h : isBlank c = false) :
    isLineBreak c = false := by
  rw [← Bool.not_eq_true]
  intro hbreak
  rw [isBlank_of_isLineBreak hbreak] at h
  cases h

/-- The rest of the line in front. -/
def firstLine (text : List Char) : List Char := text.takeWhile fun c => !isLineBreak c

theorem firstLine_cons {c : Char} (hc : isLineBreak c = false) (text : List Char) :
    firstLine (c :: text) = c :: firstLine text :=
  List.takeWhile_cons_of_pos (by simp [hc])

theorem firstLine_break {b : Char} (hb : isLineBreak b = true) (text : List Char) :
    firstLine (b :: text) = [] :=
  List.takeWhile_cons_of_neg (by simp [hb])

theorem firstLine_append_break {b : Char} (hb : isLineBreak b = true) (text rest : List Char) :
    firstLine (text ++ b :: rest) = firstLine text := by
  induction text with
  | nil => exact firstLine_break hb rest
  | cons c text ih => rw [List.cons_append, firstLine, List.takeWhile_cons, ← firstLine, ih,
      firstLine, firstLine, List.takeWhile_cons]

/-! ### Taking margins off -/

theorem joinFeedLines_singleton (line : List Char) : joinFeedLines [line] = line := by
  simp [joinFeedLines, List.intercalate]

theorem joinFeedLines_cons (line : List Char) {lines : List (List Char)} (h : lines ≠ []) :
    joinFeedLines (line :: lines) = line ++ '\n' :: joinFeedLines lines := by
  cases lines with
  | nil => exact absurd rfl h
  | cons line' lines => simp [joinFeedLines, List.intercalate]

theorem feedLines_ne_nil (text : List Char) : feedLines text ≠ [] := by
  cases text with
  | nil => exact List.cons_ne_nil _ _
  | cons c text =>
    rw [feedLines, List.foldr_cons]
    split
    · exact List.cons_ne_nil _ _
    · split <;> exact List.cons_ne_nil _ _

theorem feedLines_cons {c : Char} (hc : c ≠ '\n') {text line : List Char}
    {rest : List (List Char)} (h : feedLines text = line :: rest) :
    feedLines (c :: text) = (c :: line) :: rest := by
  rw [feedLines] at h ⊢
  rw [List.foldr_cons, if_neg hc, h]

theorem feedLines_line {line : List Char} (hline : '\n' ∉ line) : feedLines line = [line] := by
  induction line with
  | nil => rfl
  | cons c line ih =>
    simp only [List.mem_cons, not_or] at hline
    exact feedLines_cons (Ne.symm hline.1) (ih hline.2)

theorem feedLines_append {line : List Char} (hline : '\n' ∉ line) (text : List Char) :
    feedLines (line ++ '\n' :: text) = line :: feedLines text := by
  induction line with
  | nil => rfl
  | cons c line ih =>
    simp only [List.mem_cons, not_or] at hline
    exact feedLines_cons (Ne.symm hline.1) (ih hline.2)

theorem line_or_append (text : List Char) :
    '\n' ∉ text ∨ ∃ line rest, '\n' ∉ line ∧ text = line ++ '\n' :: rest := by
  by_cases h : '\n' ∈ text
  · obtain ⟨line, rest, rfl, hline⟩ := List.eq_append_cons_of_mem h
    exact .inr ⟨line, rest, hline, rfl⟩
  · exact .inl h

/-- A line of margin alone becomes empty. -/
def clearLine (line : List Char) : List Char :=
  if (line.dropWhile isMarginChar).isEmpty then [] else line

/-- The text without the margin in front, where nothing else stands on the line. -/
def clearFront (text : List Char) : List Char :=
  if (text.dropWhile isMarginChar).head?.all (· == '\n') then text.dropWhile isMarginChar else text

/-- What is left of a text within a line when lines of margin alone become empty. -/
def clearRest (text : List Char) : List Char :=
  match feedLines text with
  | [] => []
  | line :: rest => joinFeedLines (line :: rest.map clearLine)

theorem clearRest_line {line : List Char} (hline : '\n' ∉ line) : clearRest line = line := by
  rw [clearRest, feedLines_line hline]
  exact joinFeedLines_singleton line

theorem clearRest_append {line : List Char} (hline : '\n' ∉ line) (text : List Char) :
    clearRest (line ++ '\n' :: text) =
      line ++ '\n' :: joinFeedLines ((feedLines text).map clearLine) := by
  rw [clearRest, feedLines_append hline]
  exact joinFeedLines_cons line (by simpa using feedLines_ne_nil text)

theorem clearRest_cons {c : Char} (hc : c ≠ '\n') (text : List Char) :
    clearRest (c :: text) = c :: clearRest text := by
  rcases line_or_append text with htext | ⟨line, rest, hline, rfl⟩
  · rw [clearRest_line htext, clearRest_line (by simp [htext, Ne.symm hc])]
  · rw [clearRest_append hline, ← List.cons_append, clearRest_append (by simp [hline, Ne.symm hc])]
    rfl

theorem clear_of_content {line : List Char} (hline : '\n' ∉ line)
    (h : line.dropWhile isMarginChar ≠ []) (tail : List Char) :
    clearLine line = line ∧ clearFront (line ++ tail) = line ++ tail := by
  obtain ⟨c, rest, hdrop⟩ := List.exists_cons_of_ne_nil h
  have hc : c ∈ line := (List.dropWhile_suffix isMarginChar).subset (hdrop ▸ List.mem_cons_self)
  constructor
  · rw [clearLine, hdrop]
    rfl
  · rw [clearFront, List.dropWhile_append, hdrop]
    refine if_neg ?_
    simp only [List.isEmpty_cons, Bool.false_eq_true, if_false, List.cons_append, List.head?_cons,
      Option.all_some, beq_iff_eq]
    rintro rfl
    exact hline hc

theorem clear_of_margin {line : List Char} (h : line.dropWhile isMarginChar = [])
    {tail : List Char} (htail : tail.head?.all (· == '\n')) :
    clearLine line = [] ∧ clearFront (line ++ tail) = tail := by
  have hdrop : (line ++ tail).dropWhile isMarginChar = tail := by
    rw [List.dropWhile_append, h]
    cases tail with
    | nil => rfl
    | cons c tail =>
      have hc : c = '\n' := by simpa using htail
      subst hc
      rfl
  constructor
  · rw [clearLine, h]
    rfl
  · rw [clearFront, hdrop, if_pos htail]

theorem clearRest_front {front : List Char} (hfront : '\n' ∉ front) (text : List Char) :
    clearRest (front ++ text) = front ++ clearRest text := by
  induction front with
  | nil => rfl
  | cons c front ih =>
    simp only [List.mem_cons, not_or] at hfront
    rw [List.cons_append, clearRest_cons (Ne.symm hfront.1), ih hfront.2, List.cons_append]

/-- What is left of a text at the start of a line when lines of margin alone become empty. -/
theorem joinFeedLines_clear (text : List Char) :
    joinFeedLines ((feedLines text).map clearLine) = clearRest (clearFront text) := by
  rcases line_or_append text with htext | ⟨line, rest, hline, rfl⟩
  · rw [feedLines_line htext, List.map_singleton, joinFeedLines_singleton]
    by_cases hdrop : text.dropWhile isMarginChar = []
    · obtain ⟨hclear, hfront⟩ := @clear_of_margin _ hdrop [] rfl
      rw [List.append_nil] at hfront
      rw [hclear, hfront]
      rfl
    · obtain ⟨hclear, hfront⟩ := clear_of_content htext hdrop []
      rw [List.append_nil] at hfront
      rw [hclear, hfront, clearRest_line htext]
  · rw [feedLines_append hline, List.map_cons,
      joinFeedLines_cons _ (by simpa using feedLines_ne_nil rest)]
    by_cases hdrop : line.dropWhile isMarginChar = []
    · obtain ⟨hclear, hfront⟩ := @clear_of_margin _ hdrop ('\n' :: rest) rfl
      rw [hclear, hfront]
      exact (clearRest_append List.not_mem_nil rest).symm
    · obtain ⟨hclear, hfront⟩ := clear_of_content hline hdrop ('\n' :: rest)
      rw [hclear, hfront, clearRest_append hline]

theorem clearRest_feed (text : List Char) :
    clearRest ('\n' :: text) = '\n' :: clearRest (clearFront text) := by
  rw [← joinFeedLines_clear]
  exact clearRest_append List.not_mem_nil text

theorem commonStart_foldl_nil (lines : List (List Char)) : lines.foldl commonStart [] = [] := by
  induction lines with
  | nil => rfl
  | cons line lines ih => exact ih

theorem head?_clearRest (text : List Char) : (clearRest text).head? = text.head? := by
  cases text with
  | nil => rfl
  | cons c text =>
    by_cases hc : c = '\n'
    · subst hc
      rw [clearRest_feed, List.head?_cons, List.head?_cons]
    · rw [clearRest_cons hc, List.head?_cons, List.head?_cons]

/-- Nothing but margins of their own is taken off lines behind a line without a margin. -/
theorem dedent_eq {c : Char} (hmargin : isMarginChar c = false) (hfeed : c ≠ '\n')
    (text : List Char) : dedent (c :: text) = c :: clearRest text := by
  obtain ⟨line, rest, hlines⟩ := List.exists_cons_of_ne_nil (feedLines_ne_nil text)
  have hline : clearLine (c :: line) = c :: line := by
    rw [clearLine, List.dropWhile_cons_of_neg (by simp [hmargin])]
    rfl
  have hcommon : commonMargin ((feedLines (c :: text)).map clearLine) = [] := by
    have hfirst : margin? (c :: line) = some [] := by
      rw [margin?, List.dropWhile_cons_of_neg (by simp [hmargin]),
        List.takeWhile_cons_of_neg (by simp [hmargin])]
      rfl
    rw [commonMargin, feedLines_cons hfeed hlines, List.map_cons, hline,
      List.filterMap_cons_some hfirst]
    exact commonStart_foldl_nil _
  have hfront : clearFront (c :: text) = c :: text := by
    rw [clearFront, List.dropWhile_cons_of_neg (by simp [hmargin])]
    exact ite_self _
  have hdedent : dedent (c :: text) = joinFeedLines (((feedLines (c :: text)).map clearLine).map
      fun line => line.drop (commonMargin ((feedLines (c :: text)).map clearLine)).length) := rfl
  rw [hdedent, hcommon]
  simp only [List.length_nil, List.drop_zero, List.map_id']
  rw [joinFeedLines_clear, hfront, clearRest_cons hfeed]

theorem clearFront_append {line : List Char} (hline : '\n' ∉ line)
    (hcontent : line.dropWhile isMarginChar ≠ []) (front : List Char) :
    ∃ front', clearFront (front ++ line) = front' ++ line ∧ front'.length ≤ front.length := by
  by_cases hfront : front.dropWhile isMarginChar = []
  · obtain ⟨c, rest, hdrop⟩ := List.exists_cons_of_ne_nil hcontent
    have hc : c ∈ line := (List.dropWhile_suffix isMarginChar).subset (hdrop ▸ List.mem_cons_self)
    have hall : (front ++ line).dropWhile isMarginChar = c :: rest := by
      rw [List.dropWhile_append, hfront]
      exact hdrop
    refine ⟨front, ?_, Nat.le_refl _⟩
    rw [clearFront, hall]
    refine if_neg ?_
    simp only [List.head?_cons, Option.all_some, beq_iff_eq]
    rintro rfl
    exact hline hc
  · have hdrop : (front ++ line).dropWhile isMarginChar = front.dropWhile isMarginChar ++ line := by
      rw [List.dropWhile_append, if_neg (by simpa using hfront)]
    rw [clearFront, hdrop]
    split
    · exact ⟨_, rfl, (List.dropWhile_suffix _).length_le⟩
    · exact ⟨_, rfl, Nat.le_refl _⟩

/-- The last line of a text stays if it has content. -/
theorem clearRest_last {line : List Char} (hline : '\n' ∉ line)
    (hcontent : line.dropWhile isMarginChar ≠ []) (front : List Char) :
    ∃ front', clearRest (front ++ line) = front' ++ line := by
  induction hn : front.length using Nat.strongRecOn generalizing front with
  | ind n ih =>
    subst hn
    cases front with
    | nil => exact ⟨[], clearRest_line hline⟩
    | cons c front =>
      by_cases hc : c = '\n'
      · subst hc
        obtain ⟨rest, hrest, hle⟩ := clearFront_append hline hcontent front
        obtain ⟨front', h⟩ := ih _ (Nat.lt_succ_of_le hle) rest rfl
        exact ⟨'\n' :: front', by rw [List.cons_append, clearRest_feed, hrest, h]; rfl⟩
      · obtain ⟨front', h⟩ := ih _ (Nat.lt_succ_self _) front rfl
        exact ⟨c :: front', by rw [List.cons_append, clearRest_cons hc, h]; rfl⟩

theorem trimFeeds_eq {text : List Char} (hhead : text.head? ≠ some '\n')
    (hlast : text.getLast? ≠ some '\n') : trimFeeds text = text := by
  have hdrop : ∀ {l : List Char}, l.head? ≠ some '\n' → l.dropWhile (· == '\n') = l := by
    intro l h
    cases l with
    | nil => rfl
    | cons c l => exact List.dropWhile_cons_of_neg (by simpa using h)
  rw [trimFeeds, hdrop hhead, hdrop (by simpa using hlast), List.reverse_reverse]

/-! ### Putting margins on -/

theorem exists_linesWithBreaks {text : List Char} (h : text ≠ []) :
    ∃ line rest, linesWithBreaks text = line :: rest := by
  refine List.exists_cons_of_ne_nil ?_
  fun_cases linesWithBreaks text with
  | case1 => exact absurd rfl h
  | _ => exact List.cons_ne_nil _ _

/-- What is left of a text within a line when a margin is put on the later lines. -/
def indentRest (margin text : List Char) : List Char :=
  match linesWithBreaks text with
  | [] => []
  | line :: rest =>
    line ++ rest.flatMap fun line => if line.all isBlank then line else margin ++ line

theorem indentRest_nil (margin : List Char) : indentRest margin [] = [] := rfl

/-- What stands on the line in front of a text. -/
theorem linesWithBreaks_cons {c : Char} (hc : isLineBreak c = false) (text : List Char) :
    linesWithBreaks (c :: text) = match linesWithBreaks text with
      | [] => [[c]]
      | line :: lines => (c :: line) :: lines := by
  have hpair : ∀ rest, c = '\x0d' → text = '\n' :: rest → False := by
    rintro rest rfl
    cases hc
  rw [linesWithBreaks]
  · exact if_neg (by simp [hc])
  · exact hpair

theorem indentRest_cons {c : Char} (hc : isLineBreak c = false) (margin text : List Char) :
    indentRest margin (c :: text) = c :: indentRest margin text := by
  rw [indentRest, linesWithBreaks_cons hc, indentRest]
  cases linesWithBreaks text <;> rfl

theorem linesWithBreaks_return (text : List Char) :
    linesWithBreaks ('\r' :: '\n' :: text) = ['\r', '\n'] :: linesWithBreaks text := rfl

theorem linesWithBreaks_break {b : Char} (hb : isLineBreak b = true) {text : List Char}
    (h : b = '\r' → text.head? ≠ some '\n') :
    linesWithBreaks (b :: text) = [b] :: linesWithBreaks text := by
  rw [linesWithBreaks, if_pos hb]
  rintro rest rfl rfl
  exact h rfl rfl

theorem indentRest_return (margin text : List Char) :
    indentRest margin ('\r' :: '\n' :: text) = '\r' :: '\n' :: indent margin text := by
  rw [indentRest, linesWithBreaks_return]
  rfl

theorem indentRest_break {b : Char} (hb : isLineBreak b = true) (margin : List Char)
    {text : List Char} (h : b = '\r' → text.head? ≠ some '\n') :
    indentRest margin (b :: text) = b :: indent margin text := by
  rw [indentRest, linesWithBreaks_break hb h]
  rfl

/-- A carriage return and a line feed behind it are one break, any other break is one alone. -/
theorem return_or_break (c : Char) (text : List Char) :
    (∃ rest, c = '\r' ∧ text = '\n' :: rest) ∨ (c = '\r' → text.head? ≠ some '\n') := by
  by_cases h : c = '\r' ∧ text.head? = some '\n'
  · obtain ⟨rest, hrest⟩ := List.head?_eq_some_iff.1 h.2
    exact .inl ⟨rest, h.1, hrest⟩
  · exact .inr fun hc hhead => h ⟨hc, hhead⟩

theorem indentRest_front (margin : List Char) {front : List Char}
    (hfront : ∀ c ∈ front, isLineBreak c = false) (text : List Char) :
    indentRest margin (front ++ text) = front ++ indentRest margin text := by
  induction front with
  | nil => rfl
  | cons c front ih =>
    rw [List.cons_append, indentRest_cons (hfront c (by simp)),
      ih fun d hd => hfront d (by simp [hd]), List.cons_append]

theorem indentRest_line (margin : List Char) {text : List Char}
    (h : ∀ c ∈ text, isLineBreak c = false) : indentRest margin text = text := by
  simpa [indentRest_nil] using indentRest_front margin h []

theorem head?_indentRest (margin text : List Char) :
    (indentRest margin text).head? = text.head? := by
  cases text with
  | nil => rfl
  | cons c text =>
    cases hc : isLineBreak c with
    | false => rw [indentRest_cons hc, List.head?_cons, List.head?_cons]
    | true =>
      rcases return_or_break c text with ⟨rest, rfl, rfl⟩ | hreturn
      · rw [indentRest_return, List.head?_cons, List.head?_cons]
      · rw [indentRest_break hc margin hreturn, List.head?_cons, List.head?_cons]

theorem all_blank_line {text line : List Char} {rest : List (List Char)}
    (h : linesWithBreaks text = line :: rest) :
    line.all isBlank = (firstLine text).all isBlank := by
  induction text generalizing line rest with
  | nil => cases h
  | cons c text ih =>
    cases hc : isLineBreak c with
    | false =>
      rw [linesWithBreaks_cons hc] at h
      rw [firstLine_cons hc, List.all_cons]
      cases text with
      | nil =>
        cases h
        rfl
      | cons d text =>
        obtain ⟨line', rest', hlines⟩ := exists_linesWithBreaks (List.cons_ne_nil d text)
        rw [hlines] at h
        cases h
        rw [List.all_cons, ih hlines]
    | true =>
      rw [firstLine_break hc]
      rcases return_or_break c text with ⟨rest, rfl, rfl⟩ | hreturn
      · rw [linesWithBreaks_return] at h
        cases h
        rfl
      · rw [linesWithBreaks_break hc hreturn] at h
        cases h
        rw [List.all_cons, isBlank_of_isLineBreak hc]
        rfl

theorem indent_eq (margin text : List Char) : indent margin text =
    if (firstLine text).all isBlank then indentRest margin text
    else margin ++ indentRest margin text := by
  cases text with
  | nil => rfl
  | cons c text =>
    obtain ⟨line, rest, h⟩ := exists_linesWithBreaks (List.cons_ne_nil c text)
    rw [indent, indentRest, h, List.flatMap_cons, all_blank_line h]
    split
    · rfl
    · exact List.append_assoc _ _ _

/-- The last line of a text stays behind its margin. -/
theorem indentRest_last (margin : List Char) {line : List Char}
    (hline : ∀ c ∈ line, isLineBreak c = false) (front : List Char) :
    ∃ front', indentRest margin (front ++ line) = front' ++ line := by
  have hmargin : ∀ {text}, (∃ front', indentRest margin text = front' ++ line) →
      ∃ front', indent margin text = front' ++ line := by
    rintro text ⟨front', h⟩
    rw [indent_eq, h]
    split
    · exact ⟨front', rfl⟩
    · exact ⟨margin ++ front', (List.append_assoc _ _ _).symm⟩
  induction hn : front.length using Nat.strongRecOn generalizing front with
  | ind n ih =>
    subst hn
    cases front with
    | nil => exact ⟨[], indentRest_line margin hline⟩
    | cons c front =>
      cases hc : isLineBreak c with
      | false =>
        obtain ⟨front', h⟩ := ih _ (Nat.lt_succ_self _) front rfl
        exact ⟨c :: front', by rw [List.cons_append, indentRest_cons hc, h]; rfl⟩
      | true =>
        rcases return_or_break c (front ++ line) with ⟨rest, rfl, hrest⟩ | hreturn
        · cases front with
          | nil =>
            cases hline '\n' (by simp at hrest; simp [hrest])
          | cons d front =>
            obtain ⟨rfl, rfl⟩ := List.cons.inj hrest
            obtain ⟨front', h⟩ := hmargin (ih _ (Nat.lt_succ_of_lt (Nat.lt_succ_self _)) front rfl)
            exact ⟨'\r' :: '\n' :: front', by
              rw [List.cons_append, List.cons_append, indentRest_return]
              exact congrArg (fun l => '\r' :: '\n' :: l) h⟩
        · obtain ⟨front', h⟩ := hmargin (ih _ (Nat.lt_succ_self _) front rfl)
          exact ⟨c :: front', by rw [List.cons_append, indentRest_break hc margin hreturn, h]; rfl⟩

end LambdaText.Text
