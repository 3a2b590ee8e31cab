import LambdaText.Proofs.Source.Chains
import LambdaText.Proofs.Source.NameSearch
import LambdaText.Proofs.Source.Occurrences

/-!
# Plain texts written out

A text without arrows stands for a text with one arrow: its parameters, then its body. The names
that are found or made up are no reserved words and are not repeated, and no arrow comes to be where
a made-up name is put next to the text.
-/

namespace LambdaText.Source

open LambdaText.Text

/-! ### Arrows at a seam -/

theorem prefix_append_cases {c d : Char} {a b : List Char} (h : [c, d] <+: a ++ b) :
    [c, d] <+: a ∨ a = [c] ∧ b.head? = some d ∨ a = [] ∧ [c, d] <+: b := by
  match a with
  | [] => exact .inr (.inr ⟨rfl, h⟩)
  | [x] =>
    simp only [List.cons_append, List.nil_append, List.cons_prefix_cons] at h
    obtain ⟨rfl, h⟩ := h
    cases b with
    | nil => simp at h
    | cons y b => exact .inr (.inl ⟨rfl, by simpa using (List.cons_prefix_cons.1 h).1.symm⟩)
  | x :: y :: a =>
    simp only [List.cons_append, List.cons_prefix_cons] at h
    obtain ⟨rfl, rfl, -⟩ := h
    exact .inl ⟨a, rfl⟩

/-- An arrow in a whole lies in one of the parts or over their seam. -/
theorem noArrow_append {a b : List Char} (ha : NoArrow a) (hb : NoArrow b)
    (h : '-' ∉ a ∨ '>' ∉ b) : NoArrow (a ++ b) := by
  induction a with
  | nil => exact hb
  | cons c a ih =>
    intro hin
    rw [List.cons_append, List.infix_cons_iff] at hin
    rcases hin with hin | hin
    · rw [← List.cons_append] at hin
      rcases prefix_append_cases hin with hin | ⟨hc, hd⟩ | ⟨hc, -⟩
      · exact ha hin.isInfix
      · have hseam : '-' ∈ c :: a ∧ '>' ∈ b := ⟨by simp [hc], List.mem_of_mem_head? hd⟩
        exact h.elim (fun h => h hseam.1) fun h => h hseam.2
      · cases hc
    · exact ih ha.tail (h.imp_left fun h hmem => h (List.mem_cons_of_mem c hmem)) hin

theorem noArrow_of_not_mem {text : List Char} (h : '-' ∉ text) : NoArrow text :=
  fun hin => h (hin.subset (by simp))

theorem not_mem_identifier {name : List Char} (h : isIdentifier name = true) {c : Char}
    (hc : isIdentifierRest c = false) : c ∉ name :=
  fun hmem => Bool.false_ne_true (hc.symm.trans (isIdentifierRest_of_mem h c hmem))

/-! ### Made-up names -/

theorem not_mem_reservedWords : ∀ w ∈ reservedWords, '1' ∉ w.toList ∧ '2' ∉ w.toList := by
  decide

theorem isReserved_eq_false_of_digit {name : List Char} (h : '1' ∈ name ∨ '2' ∈ name) :
    isReserved (String.ofList name) = false := by
  rw [isReserved, List.contains_eq_mem, decide_eq_false_iff_not]
  intro hmem
  obtain ⟨hone, htwo⟩ := not_mem_reservedWords _ hmem
  rw [String.toList_ofList] at hone htwo
  exact h.elim hone htwo

theorem not_reserved_of_made {taken : List (List Char)} {operandName : List Char} {name : String}
    (h : ∃ digit ∈ ['1', '2'], name.toList = freshName taken (operandName ++ [digit])) :
    isReserved name = false := by
  obtain ⟨digit, hdigit, hname⟩ := h
  have hmem : digit ∈ name.toList := hname ▸ mem_freshName taken operandName digit
  rw [← String.ofList_toList (s := name)]
  refine isReserved_eq_false_of_digit ?_
  simp only [List.mem_cons, List.not_mem_nil, or_false] at hdigit
  rcases hdigit with rfl | rfl
  · exact .inl hmem
  · exact .inr hmem

/-! ### Parameters that are found -/

theorem not_reserved_of_mem_freeNames {receiver text : List Char} {name : String}
    (h : name ∈ freeNames receiver text) : isReserved name = false := by
  rw [freeNames, mem_firstOccurrences, List.mem_map] at h
  obtain ⟨word, hword, rfl⟩ := h
  have hmay := (List.mem_filter.1 hword).2
  rw [mayBeName, Bool.and_eq_true, Bool.not_eq_true'] at hmay
  exact hmay.2

/-- The parameters for lacking operands are made up, and are not the same. -/
theorem fillOperands_names (operandName text : List Char) :
    (fillOperands operandName text).1.Nodup ∧
      ∀ n ∈ (fillOperands operandName text).1, ∃ digit ∈ ['1', '2'],
        n.toList = freshName (takenNames text) (operandName ++ [digit]) := by
  have hne : String.ofList (freshName (takenNames text) (operandName ++ ['1'])) ≠
      String.ofList (freshName (takenNames text) (operandName ++ ['2'])) :=
    fun heq => freshName_ne _ _ (by decide) (String.ofList_injective heq)
  unfold fillOperands
  split <;> simp [hne]

/-- The parameters for lacking operands, and the body that they complete. -/
theorem fillOperands_spec (operandName : List Char) {text : List Char} (htext : NoArrow text)
    {names : List String} {body : List Char} (h : fillOperands operandName text = (names, body))
    (hnames : ∀ n ∈ names, isIdentifier n.toList = true) :
    names.Nodup ∧ (∀ n ∈ names, isReserved n = false) ∧ NoArrow body := by
  obtain ⟨hnodup, hmade⟩ := h ▸ fillOperands_names operandName text
  refine ⟨hnodup, fun n hn => not_reserved_of_made (hmade n hn), ?_⟩
  have front (first : List Char) : isIdentifier first = true → NoArrow (first ++ text) := fun hid =>
    have hline := not_mem_identifier hid (show isIdentifierRest '-' = false by decide)
    noArrow_append (noArrow_of_not_mem hline) htext (.inl hline)
  have back (last whole : List Char) :
      isIdentifier last = true → NoArrow whole → NoArrow (whole ++ last) := fun hid hwhole =>
    have hline := not_mem_identifier hid (show isIdentifierRest '-' = false by decide)
    have hangle := not_mem_identifier hid (show isIdentifierRest '>' = false by decide)
    noArrow_append hwhole (noArrow_of_not_mem hline) (.inr hangle)
  simp only [fillOperands] at h
  split at h <;> cases h
  · simp only [List.forall_mem_cons, String.toList_ofList] at hnames
    exact back _ _ hnames.2.1 (front _ hnames.1)
  · simp only [List.forall_mem_cons, String.toList_ofList] at hnames
    exact front _ hnames.1
  · simp only [List.forall_mem_cons, String.toList_ofList] at hnames
    exact back _ _ hnames.1 htext
  · exact htext

/-- What a plain text is read as can be written out if its parameters are identifiers. -/
theorem readPlain_spec (operandName receiver : List Char) {text : String}
    (htext : NoArrow text.toList) :
    ∃ form names body, readPlain operandName receiver text = .last text form names body ∧
      ((∀ n ∈ names, isIdentifier n.toList = true) →
        IsParameterList names ∧ NoArrow body.toList) := by
  have parameterList : ∀ names : List String, names.Nodup → (∀ n ∈ names, isReserved n = false) →
      (∀ n ∈ names, isIdentifier n.toList = true) → IsParameterList names :=
    fun names hnodup hfree hid => ⟨hnodup, fun n hn =>
      isParameterName_iff.2 ⟨hid n hn, hfree n hn⟩⟩
  rw [readPlain]
  split
  · exact ⟨_, _, _, rfl, fun hid => ⟨parameterList _ (List.nodup_singleton _) (by decide) hid,
      htext⟩⟩
  · split
    · refine ⟨_, _, _, rfl, fun hid => ?_⟩
      obtain ⟨hnodup, hfree, hbody⟩ := fillOperands_spec operandName htext rfl hid
      rw [String.toList_ofList]
      exact ⟨parameterList _ hnodup hfree hid, hbody⟩
    · exact ⟨_, _, _, rfl, fun hid => ⟨parameterList _ (nodup_firstOccurrences _)
        (fun n hn => not_reserved_of_mem_freeNames hn) hid, htext⟩⟩

/-! ### Writing out -/

/-- The text with one arrow that a source stands for. -/
def writtenOut (s : Source) : String :=
  ", ".intercalate s.parameters ++ " -> " ++ s.finalBody

theorem Spells.after {names : List String} {gap text : List Char}
    (hgap : ∀ c ∈ gap, isSeparator c = true) (h : Spells names text) :
    Spells names (gap ++ text) := by
  cases h with
  | done hgap' =>
    exact .done fun c hc => (List.mem_append.1 hc).elim (hgap c) (hgap' c)
  | @name gap' rest name names hgap' hrest h =>
    rw [← List.append_assoc, ← List.append_assoc]
    exact .name (fun c hc => (List.mem_append.1 hc).elim (hgap c) (hgap' c)) hrest h

/-- Names with commas between them spell a parameter list. -/
theorem spells_intercalate (names : List String) :
    Spells names ([',', ' '].intercalate (names.map String.toList) ++ [' ']) := by
  induction names with
  | nil => exact .done (List.all_eq_true.1 rfl)
  | cons name names ih =>
    cases names with
    | nil =>
      rw [List.map_singleton, List.intercalate_singleton, ← List.nil_append name.toList]
      exact .name (by simp) rfl (.done (List.all_eq_true.1 rfl))
    | cons next names =>
      have hrest := ih.after
        (show ∀ c ∈ [',', ' '], isSeparator c = true from List.all_eq_true.1 rfl)
      rw [List.map_cons, List.map_cons, List.intercalate_cons_cons, ← List.map_cons,
        List.append_assoc, List.append_assoc]
      exact @Spells.name [] _ name (next :: names) (by simp) rfl hrest

theorem read_of_noArrow (operandName receiver : List Char) {text : String}
    (h : NoArrow text.toList) :
    read operandName receiver text = .ok (readPlain operandName receiver text) := by
  rw [read, sections, splitArrows_of_noArrow h]

theorem writes_writtenOut {s : Source} (hnames : IsParameterList s.parameters)
    (hbody : NoArrow s.finalBody.toList) :
    Writes (writtenOut s) [s.parameters] (' ' :: s.finalBody.toList) where
  ne_nil := List.cons_ne_nil _ _
  lists := by
    simp only [List.mem_singleton, forall_eq]
    exact hnames
  noArrow := noArrow_append (a := [' ']) (noArrow_of_not_mem (by decide)) hbody (.inl (by decide))
  spelled := by
    refine ⟨_, .cons (spells_intercalate s.parameters) .nil, ?_⟩
    rw [writtenOut, String.toList_append, String.toList_append, String.toList_intercalate,
      chainText, chainText]
    simp

theorem eq_last_of_parameterLists {s : Source} {names : List String}
    (h : s.parameterLists = [names]) : s = .last s.text s.form names s.finalBody := by
  cases s with
  | last text form parameters body =>
    cases h
    rfl
  | stage text form parameters inner =>
    rw [parameterLists, parameterLists_eq inner] at h
    cases h

/-- A text without arrows, written out, is read as one stage with the same parameters and, but for
leading blanks, the same body. -/
theorem read_writtenOut (operandName receiver : List Char) {text : String} {s : Source}
    (htext : NoArrow text.toList) (hs : read operandName receiver text = .ok s)
    (hnames : ∀ n ∈ s.parameters, isIdentifier n.toList = true) :
    read operandName receiver (writtenOut s) = .ok (.last (writtenOut s) .arrow s.parameters
      (String.ofList (trimStart s.finalBody.toList))) := by
  rw [read_of_noArrow operandName receiver htext, Except.ok.injEq] at hs
  subst hs
  obtain ⟨form, names, body, hread, hspec⟩ := readPlain_spec operandName receiver htext
  rw [hread] at hnames ⊢
  obtain ⟨hlist, hbody⟩ := hspec hnames
  obtain ⟨u, hu, htext, hform, hlists, hfinal⟩ :=
    read_of_writes (writes_writtenOut (s := .last text form names body) hlist hbody)
      operandName receiver
  rw [hu, eq_last_of_parameterLists hlists, htext, hform, hfinal]
  rfl

end LambdaText.Source
