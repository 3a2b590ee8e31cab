import LambdaText.Proofs.Source.Excluded

/-!
# What literals decide

Texts with the same outline have the same free names. They are read alike except where one of them
holds the word "return" or an arrow in a literal: both are looked for in literals too.
-/

namespace LambdaText.Source

open LambdaText.Text

def HoldsReturn (spans : List Span) : Prop := ∃ content ∈ contents spans, hasReturn content = true

def HoldsArrow (spans : List Span) : Prop := ∃ content ∈ contents spans, ¬ NoArrow content

/-- The word "return" is found outside of literals and in them. -/
theorem Scans.hasReturn_iff {text : List Char} {spans : List Span} (h : Scans none text spans) :
    hasReturn text = true ↔ hasReturn (stripLiterals text) = true ∨ HoldsReturn spans := by
  have hword : ∃ c ∈ "return".toList, isLiteralMark c = false := ⟨'e', by decide, by decide⟩
  have hwords := h.mem_words_iff hword (show ([] : List Char).getLast?.any _ = _ from rfl)
  simpa [hasReturn, HoldsReturn, stripLiterals, h.stripLiterals_eq] using hwords

theorem stripLiterals_eq_of_outline {text other : List Char} {spans others : List Span}
    (h : Scans none text spans) (h' : Scans none other others)
    (hsame : spans.map Span.outline = others.map Span.outline) :
    stripLiterals text = stripLiterals other := by
  rw [stripLiterals, h.stripLiterals_eq, map_blanked_eq hsame, ← h'.stripLiterals_eq, stripLiterals]

/-- The word "return" is found in both texts or in none if it stands outside of literals, or if both
have it in a literal or none does. -/
theorem hasReturn_eq_iff {text other : List Char} {spans others : List Span}
    (h : Scans none text spans) (h' : Scans none other others)
    (hsame : spans.map Span.outline = others.map Span.outline) :
    hasReturn text = hasReturn other ↔
      hasReturn (stripLiterals text) = true ∨ (HoldsReturn spans ↔ HoldsReturn others) := by
  rw [Bool.eq_iff_iff, h.hasReturn_iff, h'.hasReturn_iff, stripLiterals_eq_of_outline h h' hsame]
  by_cases houtside : hasReturn (stripLiterals other) = true <;> simp [houtside]

theorem noArrow_of_not_holdsArrow {spans : List Span} (h : ¬ HoldsArrow spans) :
    ∀ content ∈ contents spans, NoArrow content := fun content hcontent =>
  Classical.by_contradiction fun hin => h ⟨content, hcontent, hin⟩

/-- Both texts have the same shape if both have an arrow in a literal or none does, or if a text
with this outline is never read. -/
theorem shape_eq_iff {text other : String} {spans others : List Span}
    (h : Scans none text.toList spans) (h' : Scans none other.toList others)
    (hsame : spans.map Span.outline = others.map Span.outline) (operandName receiver : List Char) :
    shape (read operandName receiver text) = shape (read operandName receiver other) ↔
      (HoldsArrow spans ↔ HoldsArrow others) ∨
        ∀ (third : String) (thirds : List Span), Scans none third.toList thirds →
          thirds.map Span.outline = spans.map Span.outline →
            shape (read operandName receiver third) = none := by
  have refused : ∀ {free : String} {frees : List Span}, Scans none free.toList frees →
      ¬ HoldsArrow frees → shape (read operandName receiver free) = none →
      ∀ (third : String) (thirds : List Span), Scans none third.toList thirds →
        thirds.map Span.outline = frees.map Span.outline →
          shape (read operandName receiver third) = none := by
    intro free frees hfree hnone hshape third thirds hthird houtline
    by_cases harrow : HoldsArrow thirds
    · exact hthird.shape_eq_none harrow _ _
    · rw [shape_eq_of_outline hthird hfree houtline (noArrow_of_not_holdsArrow harrow)
        (noArrow_of_not_holdsArrow hnone), hshape]
  constructor
  · intro heq
    by_cases harrow : HoldsArrow spans
    · by_cases harrow' : HoldsArrow others
      · exact .inl ⟨fun _ => harrow', fun _ => harrow⟩
      · rw [h.shape_eq_none harrow] at heq
        rw [hsame]
        exact .inr (refused h' harrow' heq.symm)
    · by_cases harrow' : HoldsArrow others
      · rw [h'.shape_eq_none harrow'] at heq
        exact .inr (refused h harrow heq)
      · exact .inl ⟨fun hin => absurd hin harrow, fun hin => absurd hin harrow'⟩
  · rintro (hiff | hrefused)
    · by_cases harrow : HoldsArrow spans
      · rw [h.shape_eq_none harrow, h'.shape_eq_none (hiff.1 harrow)]
      · exact shape_eq_of_outline h h' hsame (noArrow_of_not_holdsArrow harrow)
          (noArrow_of_not_holdsArrow fun hin => harrow (hiff.2 hin)) _ _
    · rw [hrefused text spans h rfl, hrefused other others h' hsame.symm]

theorem parameters_readPlain {operandName receiver : List Char} {text : String}
    (h : (readPlain operandName receiver text).form = .implicit) :
    (readPlain operandName receiver text).parameters = freeNames receiver text.toList := by
  cases hunderscore : hasUnderscore text.toList with
  | true => simp [readPlain, hunderscore, form] at h
  | false =>
    cases hlacks : lacksFirst text.toList || lacksLast text.toList with
    | true => simp [readPlain, hunderscore, hlacks, form] at h
    | false => simp [readPlain, hunderscore, hlacks, parameters]

theorem parameters_of_implicit {operandName receiver : List Char} {text : String} {s : Source}
    (h : read operandName receiver text = .ok s) (hform : s.form = .implicit) :
    s.parameters = freeNames receiver text.toList := by
  have hshape := shape_read operandName receiver text
  rw [h, shape, hform] at hshape
  rw [read] at h
  have hplain : (Except.ok (readPlain operandName receiver text) : Except Fault Source) = .ok s →
      s.parameters = freeNames receiver text.toList := fun h => by
    rw [Except.ok.injEq] at h
    subst h
    exact parameters_readPlain hform
  rcases hsections : sections text.toList with - | ⟨first, - | ⟨second, rest⟩⟩
  · exact hplain (by rwa [hsections] at h)
  · exact hplain (by rwa [hsections] at h)
  · rw [hsections] at hshape
    simp only at hshape
    split at hshape <;> simp at hshape

/-- Texts with the same outline are read alike up to two things: the word "return" and arrows are
found in literals as well as outside of them. -/
theorem literals_decide {operandName receiver : List Char} {text other : String}
    {spans others : List Span} (hreceiver : isIdentifier receiver = true)
    (h : Scans none text.toList spans) (h' : Scans none other.toList others)
    (hsame : spans.map Span.outline = others.map Span.outline) :
    (hasReturn text.toList = hasReturn other.toList ↔
      hasReturn (stripLiterals text.toList) = true ∨ (HoldsReturn spans ↔ HoldsReturn others)) ∧
    (shape (read operandName receiver text) = shape (read operandName receiver other) ↔
      (HoldsArrow spans ↔ HoldsArrow others) ∨
        ∀ (third : String) (thirds : List Span), Scans none third.toList thirds →
          thirds.map Span.outline = spans.map Span.outline →
            shape (read operandName receiver third) = none) ∧
    ∀ s s', read operandName receiver text = .ok s → read operandName receiver other = .ok s' →
      s.form = .implicit → s'.form = .implicit → s.parameters = s'.parameters := by
  refine ⟨hasReturn_eq_iff h h' hsame, shape_eq_iff h h' hsame _ _, ?_⟩
  intro s s' hread hread' hform hform'
  rw [parameters_of_implicit hread hform, parameters_of_implicit hread' hform',
    freeNames_eq_of_outline (isQuote_of_identifier hreceiver) h h' hsame]

theorem scans_quoted (content : List Char)
    (h : literal? none ('\'' :: (content ++ ['\''])) = some (content.length + 2)) :
    Scans none ('\'' :: (content ++ ['\''])) [.literal [] '\'' content] :=
  @Scans.literal none [] content [] '\'' [] (List.forall_mem_nil _) rfl (h.trans (by simp))
    (.done _)

/-- The word "return" in a literal makes a block of a text, and an arrow in a literal makes it a
chain that cannot be read. -/
theorem literal_decides_reading :
    (∃ text other spans others, Scans none text spans ∧ Scans none other others ∧
      spans.map Span.outline = others.map Span.outline ∧ hasReturn text ≠ hasReturn other) ∧
    ∃ text other spans others, Scans none text spans ∧ Scans none other others ∧
      spans.map Span.outline = others.map Span.outline ∧
      shape (read ['_'] ['s'] (String.ofList text)) ≠
        shape (read ['_'] ['s'] (String.ofList other)) := by
  have hword : Scans none _ _ := scans_quoted ['r', 'e', 't', 'u', 'r', 'n'] (by decide)
  have harrow : Scans none _ _ := scans_quoted ['-', '>'] (by decide)
  have hother : Scans none _ _ := scans_quoted ['a'] (by decide)
  exact ⟨⟨_, _, _, _, hword, hother, rfl, by decide +kernel⟩,
    ⟨_, _, _, _, harrow, hother, rfl, by decide +kernel⟩⟩

/-- The word "return" in one of two literals decides, since it does not stand outside. -/
theorem literals_decide_quoted :
    ¬ (hasReturn ['\'', 'r', 'e', 't', 'u', 'r', 'n', '\''] = hasReturn ['\'', 'a', '\'']) ∧
      HoldsReturn [.literal [] '\'' ['r', 'e', 't', 'u', 'r', 'n']] ∧
      ¬ HoldsReturn [.literal [] '\'' ['a']] := by
  have hword := scans_quoted ['r', 'e', 't', 'u', 'r', 'n'] (by decide)
  have hother := scans_quoted ['a'] (by decide)
  have hholds : HoldsReturn [.literal [] '\'' ['r', 'e', 't', 'u', 'r', 'n']] :=
    ⟨_, List.mem_singleton_self _, by decide +kernel⟩
  have hnot : ¬ HoldsReturn [.literal [] '\'' ['a']] := by
    rintro ⟨content, hcontent, hreturn⟩
    cases List.mem_singleton.1 hcontent
    exact absurd hreturn (by decide +kernel)
  obtain ⟨hiff, -⟩ := @literals_decide ['_'] ['s']
    (String.ofList ['\'', 'r', 'e', 't', 'u', 'r', 'n', '\'']) (String.ofList ['\'', 'a', '\''])
    _ _ (by decide) hword hother rfl
  refine ⟨fun heq => ?_, hholds, hnot⟩
  rcases hiff.1 heq with hreturn | hreturn
  · exact absurd hreturn (by decide +kernel)
  · exact hnot (hreturn.1 hholds)

end LambdaText.Source
