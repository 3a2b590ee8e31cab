import LambdaText.Proofs.Code.Margins
import LambdaText.Proofs.Code.Rows
import LambdaText.Eval.Compile

/-!
# The tokens of a block that gives an expression

The text of an expression stands in a block with other margins, and in a body between parentheses.
If its line breaks are enclosed in brackets or quotes, the same tokens are read from it in both
places, but for margins within quoted texts.
-/

namespace LambdaText.Code

open LambdaText.Text

/-! ### The text of a block -/

theorem exists_trim (text : List Char) : ∃ lead trail, text = lead ++ (trim text ++ trail) ∧
    (∀ c ∈ lead, isBlank c = true) ∧ (∀ c ∈ trail, isBlank c = true) ∧
    EndsInContent (trim text) := by
  let kept := trimStart text
  have hstart : text = text.takeWhile isBlank ++ kept := List.takeWhile_append_dropWhile.symm
  have hend : kept = trim text ++ (kept.reverse.takeWhile isBlank).reverse := by
    rw [trim, trimEnd, ← List.reverse_append, List.takeWhile_append_dropWhile, List.reverse_reverse]
  refine ⟨text.takeWhile isBlank, (kept.reverse.takeWhile isBlank).reverse, ?_, ?_, ?_, ?_⟩
  · rw [← hend, ← hstart]
  · exact fun c hc => List.mem_takeWhile_imp hc
  · exact fun c hc => List.mem_takeWhile_imp (List.mem_reverse.1 hc)
  · rintro front c htrim
    have hdrop : kept.reverse.dropWhile isBlank = c :: front.reverse := by
      have := congrArg List.reverse htrim
      simpa [trim, trimEnd] using this
    have hhead := List.head?_dropWhile_not isBlank kept.reverse
    rw [hdrop] at hhead
    simpa using hhead

/-- The line breaks of a text are enclosed: there is content on both sides of each, and the text
could not end there if it stood in parentheses. So it is for a line break inside brackets or inside
a quoted text. -/
def BreaksEnclosed (text : List Char) : Prop :=
  ∀ before b after, text = before ++ b :: after → isLineBreak b = true →
    (∃ c ∈ before, isBlank c = false) ∧ (∃ c ∈ after, isBlank c = false) ∧
      tokens? ('(' :: before ++ [b, ')']) = none

/-- `BreaksEnclosed`, read off position by position. -/
def breaksEnclosed (text : List Char) : Bool :=
  (List.range text.length).all fun i => !isLineBreak (text.getD i ' ') ||
    ((text.take i).any (!isBlank ·) && (text.drop (i + 1)).any (!isBlank ·) &&
      (tokens? ('(' :: text.take i ++ [text.getD i ' ', ')'])).isNone)

theorem breaksEnclosed_iff {text : List Char} :
    breaksEnclosed text = true ↔ BreaksEnclosed text := by
  simp only [breaksEnclosed, List.all_eq_true, List.mem_range, Bool.or_eq_true, Bool.and_eq_true,
    Bool.not_eq_true', List.any_eq_true, Option.isNone_iff_eq_none, and_assoc]
  constructor
  · rintro h before b after rfl hbreak
    have hlength : before.length < (before ++ b :: after).length := by simp
    have hb : (before ++ b :: after).getD before.length ' ' = b := by simp
    have hpieces := h before.length hlength
    rw [hb, List.take_left, List.drop_append, List.drop_of_length_le (Nat.le_succ _),
      Nat.add_sub_cancel_left] at hpieces
    exact hpieces.resolve_left (ne_of_eq_of_ne hbreak (by decide))
  · intro h i hi
    have hsplit : text = text.take i ++ text.getD i ' ' :: text.drop (i + 1) := by
      rw [← List.getElem_eq_getD (h := hi) ' ', ← List.drop_eq_getElem_cons hi,
        List.take_append_drop]
    exact or_iff_not_imp_left.2 fun hbreak =>
      h _ _ _ hsplit ((Bool.not_eq_false _).mp hbreak)

instance (text : List Char) : Decidable (BreaksEnclosed text) :=
  decidable_of_iff _ breaksEnclosed_iff

/-- No line break stands among the blanks in front of an enclosed text. -/
theorem BreaksEnclosed.lead {lead text : List Char} (h : BreaksEnclosed (lead ++ text))
    (hlead : ∀ c ∈ lead, isBlank c = true) : ∀ c ∈ lead, isLineBreak c = false := by
  intro c hc
  rw [← Bool.not_eq_true]
  intro hbreak
  obtain ⟨before, after, rfl⟩ := List.append_of_mem hc
  obtain ⟨⟨d, hd, hblank⟩, -⟩ := h before c (after ++ text) (by simp) hbreak
  rw [hlead d (by simp [hd])] at hblank
  cases hblank

/-- No line break stands among the blanks behind an enclosed text. -/
theorem BreaksEnclosed.trail {trail text : List Char} (h : BreaksEnclosed (text ++ trail))
    (htrail : ∀ c ∈ trail, isBlank c = true) : ∀ c ∈ trail, isLineBreak c = false := by
  intro c hc
  rw [← Bool.not_eq_true]
  intro hbreak
  obtain ⟨before, after, rfl⟩ := List.append_of_mem hc
  obtain ⟨-, ⟨d, hd, hblank⟩, -⟩ := h (text ++ before) c after (by simp) hbreak
  rw [htrail d (by simp [hd])] at hblank
  cases hblank

/-- The first line of the function that a block becomes, and the word of its second line. -/
def blockHead : List Char := "def strlambda_fn(*args):\n    return".toList

def blockMargin : List Char := "    ".toList

theorem dedent_return (text : List Char) :
    dedent ("return ".toList ++ text) = "return ".toList ++ clearRest text := by
  change dedent ('r' :: ("eturn ".toList ++ text)) = _
  rw [dedent_eq rfl (by decide), clearRest_front (by decide)]
  rfl

theorem indent_return (text : List Char) : Text.indent blockMargin ("return ".toList ++ text) =
    blockMargin ++ ("return ".toList ++ indentRest blockMargin text) := by
  have hword : ∀ c ∈ "return ".toList, isLineBreak c = false := by
    have hall : ("return ".toList.all fun c => !isLineBreak c) = true := by decide +kernel
    simpa only [List.all_eq_true, Bool.not_eq_true'] using hall
  rw [indent_eq, indentRest_front _ hword]
  refine if_neg ?_
  change ¬ (firstLine ('r' :: _)).all isBlank = true
  rw [firstLine_cons rfl, List.all_cons]
  exact Bool.false_ne_true

theorem blockDefinition_return {text : String}
    (hlast : (clearRest text.toList).getLast? ≠ some '\n') :
    blockDefinition ("return " ++ text) =
      blockHead ++ ' ' :: (indentRest blockMargin (clearRest text.toList) ++ ['\n']) := by
  have htrim : trimFeeds (dedent ("return " ++ text).toList) =
      "return ".toList ++ clearRest text.toList := by
    rw [String.toList_append, dedent_return]
    refine trimFeeds_eq (by simp) ?_
    cases hrest : clearRest text.toList with
    | nil => decide
    | cons c rest => rwa [List.getLast?_append_cons, ← hrest]
  have hhead : s!"def {blockName}(*args):\n".toList ++ (blockMargin ++ "return ".toList) =
      blockHead ++ [' '] := by
    decide +kernel
  change _ ++ Text.indent blockMargin _ ++ _ = _
  rw [htrim, indent_return, List.append_cons blockHead, ← hhead]
  simp only [List.append_assoc]

theorem blockDefinition_give {lead core trail : List Char} {text : String}
    (htext : text.toList = lead ++ (core ++ trail)) (hne : core ≠ []) (hend : EndsInContent core)
    (hlead : ∀ c ∈ lead, isLineBreak c = false)
    (htrail : ∀ c ∈ trail, isBlank c = true ∧ isLineBreak c = false) :
    ∃ padded, unifyBreaks (blockDefinition ("return " ++ text)) =
        blockHead ++ ' ' :: (lead ++ (padded ++ ['\n'])) ∧
      Repads (unifyBreaks core) padded := by
  have hmargin : ∀ c ∈ blockMargin, isMarginChar c = true := List.all_eq_true.1 (by decide +kernel)
  obtain ⟨front, q, rfl⟩ : ∃ front q, core = front ++ [q] := by
    rcases List.eq_nil_or_concat core with rfl | ⟨front, q, rfl⟩
    · exact absurd rfl hne
    · exact ⟨front, q, List.concat_eq_append⟩
  have hq := hend front q rfl
  have hline : ∀ c ∈ q :: trail, isLineBreak c = false := by
    simp only [List.mem_cons]
    rintro c (rfl | hc)
    · exact isLineBreak_eq_false_of_not_blank hq
    · exact (htrail c hc).2
  refine ⟨_, ?_, repads_indentRest hmargin (by decide) htrail hend⟩
  -- The last line stays as it is when margins are cleared and when new ones are put on.
  obtain ⟨cleared, hcleared⟩ : ∃ cleared, clearRest (front ++ [q] ++ trail) =
      cleared ++ q :: trail := by
    rw [List.append_assoc]
    refine @clearRest_last (q :: trail) ?_ ?_ front
    · exact fun hin => nomatch hline _ hin
    · rw [List.dropWhile_cons_of_neg]
      · exact List.cons_ne_nil _ _
      · intro hm
        rw [isBlank_of_isMarginChar hm] at hq
        cases hq
  obtain ⟨indented, hindented⟩ := indentRest_last blockMargin hline cleared
  have hrest : clearRest text.toList = lead ++ (cleared ++ q :: trail) := by
    rw [htext, clearRest_front (fun hin => nomatch hlead _ hin), hcleared]
  have hlast : (clearRest text.toList).getLast? ≠ some '\n' := by
    rw [hrest, ← List.append_assoc, List.getLast?_append_cons]
    intro hlast
    cases hline _ (List.mem_of_getLast? hlast)
  have hreturn : '\r' ∉ blockHead ++ ' ' :: lead := by
    rw [List.append_cons, List.mem_append, not_or]
    exact ⟨by decide +kernel, fun hin => nomatch hlead _ hin⟩
  have hblock : blockDefinition ("return " ++ text) =
      (blockHead ++ ' ' :: lead) ++ (indented ++ q :: trail ++ ['\n']) := by
    rw [blockDefinition_return hlast, hrest, indentRest_front _ hlead, hindented]
    simp only [List.append_assoc, List.cons_append]
  rw [hblock, unifyBreaks_append hreturn, hcleared, hindented, unifyBreaks_feed hline,
    List.append_assoc, List.cons_append]
  rfl

/-! ### Its tokens -/

/-- The tokens in front of the expression that a block gives, last first. -/
def headTokens : List Token :=
  [.word "return", .indent, .newline, .sign ":", .sign ")", .name "args", .sign "*", .sign "(",
    .name "strlambda_fn", .word "def"]

theorem lexes_head (rest : List Char) (tokens : List Token) :
    Lexes true Lexer.start (blockHead ++ ' ' :: rest) tokens ↔
      Lexes false ⟨[], [(4, 4), (0, 0)], headTokens⟩ (' ' :: rest) tokens := by
  -- The margin, the words with the blank between them, the parameters, and the next line.
  iterate 12 refine (lexes_iff_of_step rfl).trans ?_
  exact Iff.rfl

theorem lexes_paren (rest : List Char) (tokens : List Token) :
    Lexes true Lexer.start ('(' :: rest) tokens ↔
      Lexes false ⟨[')'], [(0, 0)], [.sign "("]⟩ rest tokens := by
  iterate 2 refine (lexes_iff_of_step rfl).trans ?_
  exact Iff.rfl

/-- Where a line feed comes from. -/
theorem unifyBreaks_eq_append {text before after : List Char}
    (h : unifyBreaks text = before ++ '\n' :: after) :
    ∃ before' b after', text = before' ++ b :: after' ∧ isLineBreak b = true ∧
      unifyBreaks (before' ++ [b, ')']) = before ++ ['\n', ')'] := by
  induction hn : text.length using Nat.strong_induction_on generalizing text before with
  | _ n ih =>
    subst hn
    cases text with
    | nil => simp [unifyBreaks] at h
    | cons c text =>
      by_cases hc : c = '\r'
      · subst hc
        cases before with
        | nil => exact ⟨[], '\r', text, rfl, rfl, rfl⟩
        | cons d before =>
          rcases return_or_break '\r' text with ⟨rest, -, rfl⟩ | hreturn
          · obtain ⟨rfl, hrest⟩ := List.cons.inj h
            obtain ⟨before', b, after', rfl, hb, hbefore⟩ := 
              ih rest.length (Nat.lt_succ_of_lt (Nat.lt_succ_self _)) hrest rfl
            exact ⟨'\r' :: '\n' :: before', b, after', rfl, hb, congrArg ('\n' :: ·) hbefore⟩
          · rw [unifyBreaks_return (hreturn rfl)] at h
            obtain ⟨rfl, hrest⟩ := List.cons.inj h
            obtain ⟨before', b, after', rfl, hb, hbefore⟩ :=
              ih text.length (Nat.lt_succ_self _) hrest rfl
            refine ⟨'\r' :: before', b, after', rfl, hb, ?_⟩
            rw [List.cons_append, unifyBreaks_return, hbefore, List.cons_append]
            have hhead := hreturn rfl
            cases before' <;> exact hhead
      · rw [unifyBreaks_cons hc] at h
        cases before with
        | nil =>
          obtain ⟨rfl, -⟩ := List.cons.inj h
          exact ⟨[], '\n', text, rfl, rfl, rfl⟩
        | cons d before =>
          obtain ⟨rfl, hrest⟩ := List.cons.inj h
          obtain ⟨before', b, after', rfl, hb, hbefore⟩ :=
            ih text.length (Nat.lt_succ_self _) hrest rfl
          refine ⟨c :: before', b, after', rfl, hb, ?_⟩
          rw [List.cons_append, unifyBreaks_cons hc, hbefore, List.cons_append]

/-- The blanks that a line may have in front. -/
theorem lexes_lead {x : Lexer} {lead text : List Char} {tokens : List Token}
    (hlead : ∀ c ∈ lead, isBlank c = true) (hbreak : ∀ c ∈ lead, isLineBreak c = false)
    (h : Lexes false x (lead ++ text) tokens) :
    Lexes false x text tokens ∧
      ∀ (y : Lexer) text tokens,
        Lexes false y text tokens → Lexes false y (lead ++ text) tokens := by
  induction lead with
  | nil => exact ⟨h, fun _ _ _ hy => hy⟩
  | cons c lead ih =>
    have hfeed : c ≠ '\n' := by
      rintro rfl
      cases hbreak '\n' (by simp)
    have hc := lexes_blank_cases (hlead c (by simp)) hfeed h
    rw [List.cons_append, lexes_blank hc] at h
    obtain ⟨hrest, hother⟩ := ih (fun d hd => hlead d (by simp [hd]))
      (fun d hd => hbreak d (by simp [hd])) h
    exact ⟨hrest, fun y text tokens hy => (lexes_blank hc).2 (hother y text tokens hy)⟩

/-- The text of an expression has the same tokens in a block and in a body, but for margins within
quoted texts. -/
theorem rows_alike {text : String} (h : BreaksEnclosed text.toList)
    (hne : trim text.toList ≠ []) {tokens tokens' : List Token}
    (hbody : tokens? (bodyText text) = some tokens)
    (hblock : tokens? (blockDefinition ("return " ++ text)) = some tokens') :
    ∃ row row', List.Forall₂ SameToken row row' ∧
      tokens = .sign "(" :: row ++ [.sign ")", .newline] ∧
      tokens' = headTokens.reverse ++ row' ++ [.newline, .dedent] := by
  obtain ⟨lead, trail, htext, hlead, htrail, hend⟩ := exists_trim text.toList
  have hlead' := (htext ▸ h).lead hlead
  have htrail' : ∀ c ∈ trail, isLineBreak c = false := by
    rw [← List.append_assoc] at htext
    exact (htext ▸ h).trail htrail
  obtain ⟨padded, hpadded, hpads⟩ := blockDefinition_give htext hne hend hlead'
    fun c hc => ⟨htrail c hc, htrail' c hc⟩
  rw [tokens?_eq_some, hpadded, lexes_head, lexes_blank (.inl rfl)] at hblock
  obtain ⟨hblock, hskip⟩ := lexes_lead hlead hlead' hblock
  have hunify : unifyBreaks (bodyText text) =
      '(' :: (unifyBreaks (trim text.toList) ++ ['\n', ')']) := by
    obtain ⟨front, q, hcore⟩ : ∃ front q, trim text.toList = front ++ [q] := by
      rcases List.eq_nil_or_concat (trim text.toList) with hnil | ⟨front, q, hcore⟩
      · exact absurd hnil hne
      · exact ⟨front, q, by rw [hcore, List.concat_eq_append]⟩
    have hq := isLineBreak_eq_false_of_not_blank (hend front q hcore)
    rw [bodyText, List.cons_append, unifyBreaks_cons (by decide), hcore,
      unifyBreaks_feed (by simpa using hq)]
    rfl
  rw [tokens?_eq_some, hunify, lexes_paren] at hbody
  have hfeeds : FeedsEnclosed ⟨[')'], [(0, 0)], [.sign "("]⟩ (unifyBreaks (trim text.toList)) := by
    intro before after heq out hlexes
    obtain ⟨before', b, after', hcore, hb, hbefore⟩ := unifyBreaks_eq_append heq
    obtain ⟨-, -, hnone⟩ := h (lead ++ before') b (after' ++ trail) (by
      rw [htext, hcore]
      simp only [List.append_assoc, List.cons_append]) hb
    have hreturn : '\r' ∉ '(' :: lead := by
      rw [List.mem_cons, not_or]
      exact ⟨by decide, fun hin => nomatch hlead' _ hin⟩
    have hsome : tokens? ('(' :: (lead ++ before') ++ [b, ')']) = some out := by
      rw [tokens?_eq_some, ← List.cons_append, List.append_assoc, unifyBreaks_append hreturn,
        hbefore, List.cons_append, lexes_paren]
      exact hskip _ _ _ hlexes
    rw [hnone] at hsome
    cases hsome
  have hpair : Paired ⟨[], [(4, 4), (0, 0)], headTokens⟩ ⟨[')'], [(0, 0)], [.sign "("]⟩ :=
    ⟨rfl, rfl, rfl⟩
  obtain ⟨row, row', hrows, rfl, rfl⟩ := hpads.rows hpair hfeeds hblock hbody
  exact ⟨row, row', hrows, rfl, rfl⟩

end LambdaText.Code
