import LambdaText.Proofs.Source.Acceptance

/-!
# The texts of stages

The first stage of a source keeps the text that was read. Every later stage has a text of its own:
the pieces that were left, with plain arrows between them. So the last stage of a chain of two
parameter lists or more keeps the last list and the body alone, which is never the whole text. A
stage text is cut into the pieces that it was joined from, so every stage is read from its own text.
-/

namespace LambdaText.Source

open LambdaText.Text

/-! ### Blanks and arrows -/

theorem trimStart_isSuffix (text : List Char) : trimStart text <:+ text := List.dropWhile_suffix _

theorem trimEnd_isPrefix (text : List Char) : trimEnd text <+: text := by
  rw [trimEnd, ← List.reverse_suffix, List.reverse_reverse]
  exact List.dropWhile_suffix _

theorem trim_isInfix (text : List Char) : trim text <:+: text :=
  (trimEnd_isPrefix _).isInfix.trans (trimStart_isSuffix text).isInfix

theorem NoArrow.of_part {part text : List Char} (h : NoArrow text) (hpart : part <:+: text) :
    NoArrow part :=
  fun hin => h (hin.trans hpart)

theorem NoArrow.append_blank {text : List Char} (h : NoArrow text) : NoArrow (text ++ [' ']) :=
  noArrow_append h (noArrow_of_not_mem (by decide)) (.inr (by decide))

theorem NoArrow.cons_blank {text : List Char} (h : NoArrow text) : NoArrow (' ' :: text) :=
  noArrow_append (a := [' ']) (noArrow_of_not_mem (by decide)) h (.inl (by decide))

theorem toList_stageText_pair (segment body : List Char) :
    (stageText [segment, body]).toList = chainText [segment ++ [' ']] (' ' :: body) := by
  rw [stageText, String.toList_ofList, List.intercalate_cons_cons, List.intercalate_singleton,
    chainText, chainText]
  simp

theorem length_splitArrows_stageText {segment body : List Char} (hsegment : NoArrow segment)
    (hbody : NoArrow body) : (splitArrows (stageText [segment, body]).toList).length = 2 := by
  rw [toList_stageText_pair, splitArrows_chainText (by simpa using hsegment.append_blank)
    hbody.cons_blank]
  rfl

/-! ### Stages of a chain -/

/-- A chain has a stage for every piece but the body, and the text of its last stage. -/
theorem readChain_texts {text own : String} {front : List (List Char)} {segment body : List Char}
    {s : Source} (h : readChain text own (front ++ [segment, body]) = .ok s) :
    s.text = own ∧ s.depth = front.length + 1 ∧
      s.finalText = if front = [] then own else stageText [segment, body] := by
  induction front generalizing own s with
  | nil =>
    obtain ⟨parameters, -, hs⟩ := exists_of_bind_eq_ok h
    cases hs
    exact ⟨rfl, rfl, rfl⟩
  | cons first front ih =>
    obtain ⟨second, rest, hrest⟩ : ∃ second rest, front ++ [segment, body] = second :: rest :=
      List.exists_cons_of_ne_nil (by simp)
    have hlong : rest ≠ [] := by
      rintro rfl
      have := congrArg List.length hrest
      simp at this
    rw [List.cons_append, hrest, readChain_cons hlong, ← hrest] at h
    obtain ⟨inner, hinner, h⟩ := exists_of_bind_eq_ok h
    obtain ⟨parameters, -, hs⟩ := exists_of_bind_eq_ok h
    cases hs
    obtain ⟨-, hdepth, hfinal⟩ := ih hinner
    refine ⟨rfl, ?_, ?_⟩
    · rw [depth, hdepth, List.length_cons, Nat.add_comm]
    · rw [finalText, hfinal, if_neg (List.cons_ne_nil _ _)]
      split
      · next hnil =>
        rw [hnil]
        rfl
      · rfl

/-! ### Texts -/

/-- A text that is read is the text of the first stage. A single stage is the last one too; of more
stages, the last has the last parameter list and the body for its text, and not the whole one. -/
theorem read_texts {operandName receiver : List Char} {text : String} {s : Source}
    (h : read operandName receiver text = .ok s) :
    s.text = text ∧ (s.depth = 1 → s.finalText = text) ∧
      (1 < s.depth → s.finalText ≠ text ∧ ∃ front segment body,
        sections text.toList = front ++ [segment, body] ∧
          s.finalText = stageText [segment, body]) := by
  by_cases hplain : NoArrow text.toList
  · rw [read_of_noArrow operandName receiver hplain, Except.ok.injEq] at h
    subst h
    obtain ⟨form, names, body, hread, -⟩ := readPlain_spec operandName receiver hplain
    rw [hread]
    exact ⟨rfl, fun _ => rfl, fun hdepth => absurd hdepth (Nat.lt_irrefl 1)⟩
  obtain ⟨segments, body, htext, hsegments, hbody⟩ := exists_chainText text.toList
  obtain ⟨first, rest, rfl⟩ : ∃ first rest, segments = first :: rest := by
    refine List.exists_cons_of_ne_nil ?_
    rintro rfl
    exact hplain (htext ▸ hbody)
  have hsections := sections_chainText hsegments hbody
  rw [← htext] at hsections
  rcases List.eq_nil_or_concat rest with rfl | ⟨front, segment, rfl⟩
  · have hread : read operandName receiver text =
        readChain text text ([] ++ [trimEnd first, trimStart body]) := by
      rw [read, hsections]
      rfl
    obtain ⟨hown, hdepth, hfinal⟩ := readChain_texts (hread ▸ h)
    exact ⟨hown, fun _ => hfinal, fun hmore => by simp [hdepth] at hmore⟩
  · have hpieces : sections text.toList =
        (trimEnd first :: front.map trim) ++ [trim segment, trimStart body] := by
      rw [hsections]
      simp
    have hread : read operandName receiver text = readChain text text
        ((trimEnd first :: front.map trim) ++ [trim segment, trimStart body]) := by
      rw [← hpieces, read, hsections]
      cases front <;> rfl
    obtain ⟨hown, hdepth, hfinal⟩ := readChain_texts (hread ▸ h)
    rw [if_neg (List.cons_ne_nil _ _)] at hfinal
    refine ⟨hown, fun hone => by simp [hdepth] at hone, fun _ => ⟨?_, _, _, _, hpieces, hfinal⟩⟩
    rw [hfinal]
    intro heq
    have hsegment : NoArrow segment := hsegments segment (by simp)
    have htwo := length_splitArrows_stageText (hsegment.of_part (trim_isInfix segment))
      (hbody.of_part (trimStart_isSuffix body).isInfix)
    rw [heq, htext, splitArrows_chainText hsegments hbody] at htwo
    simp at htwo

/-! ### What is left of a chain -/

/-- What is left of a chain: segments without arrows and without blanks at their ends, and a body
without arrows and without blanks in front. -/
structure IsRest (segments : List (List Char)) (body : List Char) : Prop where
  noArrow : ∀ segment ∈ segments, NoArrow segment
  trimmed : ∀ segment ∈ segments, trim segment = segment
  noArrow_body : NoArrow body
  trimmed_body : trimStart body = body

theorem IsRest.tail {segment body : List Char} {segments : List (List Char)}
    (h : IsRest (segment :: segments) body) : IsRest segments body where
  noArrow := (List.forall_mem_cons.1 h.noArrow).2
  trimmed := (List.forall_mem_cons.1 h.trimmed).2
  noArrow_body := h.noArrow_body
  trimmed_body := h.trimmed_body

theorem trimEnd_trimEnd (text : List Char) : trimEnd (trimEnd text) = trimEnd text := by
  rw [trimEnd, trimEnd, List.reverse_reverse, List.dropWhile_idempotent]

theorem trimStart_trimEnd_of_head {text : List Char} (h : text.head?.all (!isBlank ·)) :
    trimStart (trimEnd text) = trimEnd text := by
  obtain ⟨rest, hrest⟩ := trimEnd_isPrefix text
  cases hend : trimEnd text with
  | nil => rfl
  | cons c kept =>
    rw [hend] at hrest
    rw [← hrest, List.cons_append, List.head?_cons, Option.all_some, Bool.not_eq_true'] at h
    rw [trimStart, List.dropWhile_cons_of_neg (by simp [h])]

theorem head?_trimStart (text : List Char) : (trimStart text).head?.all (!isBlank ·) := by
  have h := List.head?_dropWhile_not isBlank text
  rw [trimStart]
  cases hhead : (text.dropWhile isBlank).head? with
  | none => rfl
  | some c =>
    rw [hhead] at h
    simpa using h

theorem trim_trim (text : List Char) : trim (trim text) = trim text := by
  rw [trim, trim, trimStart_trimEnd_of_head (head?_trimStart text), trimEnd_trimEnd]

/-- Blanks around a text without blanks at its ends are taken off again. -/
theorem trim_padded {text : List Char} (h : trim text = text) :
    trim (' ' :: (text ++ [' '])) = text := by
  have hblank : isBlank ' ' = true := by decide
  have hpadded : trimStart (' ' :: (text ++ [' '])) = trimStart (text ++ [' ']) :=
    List.dropWhile_cons_of_pos hblank
  cases text with
  | nil => decide
  | cons c text =>
    have hc : isBlank c = false := by
      have hhead := head?_trimStart (c :: text)
      obtain ⟨rest, hrest⟩ := trimEnd_isPrefix (trimStart (c :: text))
      rw [← trim, h] at hrest
      rw [← hrest] at hhead
      simpa using hhead
    rw [trim, hpadded, List.cons_append, trimStart, List.dropWhile_cons_of_neg (by simp [hc]),
      ← List.cons_append, trimEnd_concat_of_blank hblank]
    conv_lhs => rw [← h, trim, trimEnd_trimEnd]
    exact h

/-- The text of a stage has plain arrows between its pieces. -/
theorem toList_stageText (segment body : List Char) (segments : List (List Char)) :
    (stageText (segment :: (segments ++ [body]))).toList =
      chainText ((segment ++ [' ']) :: segments.map fun later => ' ' :: (later ++ [' ']))
        (' ' :: body) := by
  rw [stageText, String.toList_ofList]
  induction segments generalizing segment with
  | nil => simp [chainText]
  | cons next segments ih =>
    rw [List.cons_append, List.intercalate_cons_cons, ih next]
    simp [chainText]

/-- The text of a stage is cut into the pieces that it was joined from. -/
theorem sections_stageText {segment body : List Char} {segments : List (List Char)}
    (h : IsRest (segment :: segments) body) :
    sections (stageText (segment :: (segments ++ [body]))).toList =
      segment :: (segments ++ [body]) := by
  have hsegment := h.trimmed segment List.mem_cons_self
  have harrows : ∀ padded ∈ (segment ++ [' ']) :: segments.map fun later => ' ' :: (later ++ [' ']),
      NoArrow padded := by
    rw [List.forall_mem_cons, List.forall_mem_map]
    exact ⟨(h.noArrow segment List.mem_cons_self).append_blank, fun later hlater =>
      (h.noArrow later (List.mem_cons_of_mem _ hlater)).append_blank.cons_blank⟩
  have hlater : (segments.map fun later => ' ' :: (later ++ [' '])).map trim = segments := by
    rw [List.map_map, List.map_congr_left (g := id), List.map_id]
    exact fun later hin => trim_padded (h.trimmed later (List.mem_cons_of_mem _ hin))
  have hfirst : trimEnd (segment ++ [' ']) = segment := by
    rw [trimEnd_concat_of_blank (by decide), ← hsegment, trim, trimEnd_trimEnd]
  have hbody : trimStart (' ' :: body) = body :=
    (List.dropWhile_cons_of_pos (by decide)).trans h.trimmed_body
  rw [toList_stageText, sections_chainText harrows h.noArrow_body.cons_blank, hfirst, hlater, hbody]

theorem read_stageText {segment body : List Char} {segments : List (List Char)}
    (h : IsRest (segment :: segments) body) (operandName receiver : List Char) :
    read operandName receiver (stageText (segment :: (segments ++ [body]))) =
      readChain (stageText (segment :: (segments ++ [body])))
        (stageText (segment :: (segments ++ [body]))) (segment :: (segments ++ [body])) := by
  rw [read, sections_stageText h]
  cases segments <;> rfl

/-! ### Every stage is read from its text -/

/-- A text only matters for the faults of its parameter lists. -/
theorem readParameters_congr {text : String} {segment : List Char} {names : List String}
    (h : readParameters text segment = .ok names) (other : String) :
    readParameters other segment = .ok names := by
  simp only [readParameters] at h ⊢
  rcases isParameterList_or_firstFault text (parameterTokens segment) with hlist | ⟨fault, hfault⟩
  · rw [parameterFault?_eq_none text [] hlist.allowed hlist.nodup (by simp)] at h
    rw [parameterFault?_eq_none other [] hlist.allowed hlist.nodup (by simp)]
    exact h
  · rw [parameterFault?_of_firstFault hfault] at h
    cases h

theorem readChain_congr {text own : String} {pieces : List (List Char)} {s : Source}
    (h : readChain text own pieces = .ok s) (other : String) :
    readChain other own pieces = .ok s := by
  induction pieces generalizing own s with
  | nil => exact h
  | cons segment pieces ih =>
    rcases pieces with - | ⟨next, - | ⟨third, rest⟩⟩
    · exact h
    · obtain ⟨names, hnames, hs⟩ := exists_of_bind_eq_ok h
      rw [readChain, readParameters_congr hnames other]
      exact hs
    · rw [readChain_cons (by simp)] at h ⊢
      obtain ⟨inner, hinner, h⟩ := exists_of_bind_eq_ok h
      obtain ⟨names, hnames, hs⟩ := exists_of_bind_eq_ok h
      rw [ih hinner, readParameters_congr hnames other]
      exact hs

theorem text_of_readChain {text own : String} {pieces : List (List Char)} {s : Source}
    (h : readChain text own pieces = .ok s) : s.text = own := by
  rcases pieces with - | ⟨segment, - | ⟨next, - | ⟨third, rest⟩⟩⟩
  · cases h
    rfl
  · cases h
    rfl
  · obtain ⟨names, -, hs⟩ := exists_of_bind_eq_ok h
    cases hs
    rfl
  · rw [readChain_cons (by simp)] at h
    obtain ⟨inner, -, h⟩ := exists_of_bind_eq_ok h
    obtain ⟨names, -, hs⟩ := exists_of_bind_eq_ok h
    cases hs
    rfl

theorem read_of_mem_stages {text own : String} {segments : List (List Char)} {body : List Char}
    {s : Source} (hrest : IsRest segments.tail body)
    (h : readChain text own (segments ++ [body]) = .ok s) (operandName receiver : List Char) :
    ∀ stage ∈ s.stages, stage = s ∨ read operandName receiver stage.text = .ok stage := by
  induction segments generalizing own s with
  | nil =>
    cases h
    simp [stages]
  | cons segment segments ih =>
    rcases segments with - | ⟨next, segments⟩
    · obtain ⟨names, -, hs⟩ := exists_of_bind_eq_ok h
      cases hs
      simp [stages]
    · rw [List.cons_append, List.cons_append, readChain_cons (by simp)] at h
      obtain ⟨inner, hinner, h⟩ := exists_of_bind_eq_ok h
      obtain ⟨names, -, hs⟩ := exists_of_bind_eq_ok h
      cases hs
      have htext : inner.text = stageText (next :: (segments ++ [body])) := by
        exact text_of_readChain hinner
      refine List.forall_mem_cons.2 ⟨.inl rfl, fun stage hstage => .inr ?_⟩
      rcases ih hrest.tail hinner stage hstage with rfl | hread
      · rw [htext, read_stageText hrest]
        exact readChain_congr hinner _
      · exact hread

theorem read_stage {operandName receiver : List Char} {text : String} {s : Source}
    (h : read operandName receiver text = .ok s) {stage : Source} (hstage : stage ∈ s.stages) :
    read operandName receiver stage.text = .ok stage := by
  by_cases hplain : NoArrow text.toList
  · obtain ⟨form, names, body, hread, -⟩ := readPlain_spec operandName receiver hplain
    have hs := h
    rw [read_of_noArrow operandName receiver hplain, hread, Except.ok.injEq] at hs
    subst hs
    cases List.mem_singleton.1 hstage
    exact h
  obtain ⟨pieces⟩ := nonempty_pieces text.toList
  obtain ⟨first, rest, hsegments⟩ : ∃ first rest, pieces.segments = first :: rest := by
    refine List.exists_cons_of_ne_nil fun hnil => hplain ?_
    rw [pieces.joined, hnil]
    exact pieces.noArrow_body
  have hchain : read operandName receiver text =
      readChain text text ((trimEnd first :: rest.map trim) ++ [trimStart pieces.body]) := by
    have hsections := sections_chainText (hsegments ▸ pieces.noArrow) pieces.noArrow_body
    rw [← hsegments, ← pieces.joined] at hsections
    rw [read, hsections]
    cases rest <;> rfl
  have hrest : IsRest (trimEnd first :: rest.map trim).tail (trimStart pieces.body) :=
    { noArrow := List.forall_mem_map.2 fun segment hin =>
        (pieces.noArrow segment (by simp [hsegments, hin])).of_part (trim_isInfix segment)
      trimmed := List.forall_mem_map.2 fun segment _ => trim_trim segment
      noArrow_body := pieces.noArrow_body.of_part (trimStart_isSuffix _).isInfix
      trimmed_body := List.dropWhile_idempotent _ _ }
  rw [hchain] at h
  rcases read_of_mem_stages hrest h operandName receiver stage hstage with rfl | hread
  · rw [text_of_readChain h, hchain]
    exact h
  · exact hread

end LambdaText.Source
