import LambdaText.Log.Names
import LambdaText.Proofs.Source.WrittenOut

/-!
# Which texts are read

Every text falls apart into segments with tokens, and a body behind the last arrow. It is read if
the tokens of every segment are a parameter list, and as the chain of these lists; otherwise the
last segment of which that is not true decides what is wrong, by its first token that is no
parameter or stands in the segment before. So a chain that is written out in any way is read back.
-/

namespace LambdaText.Source

open LambdaText.Text

/-! ### Every text falls apart -/

theorem noArrow_cons {c : Char} {text : List Char} (hc : ¬ ['-', '>'] <+: c :: text)
    (h : NoArrow text) : NoArrow (c :: text) := by
  intro hin
  rcases List.infix_cons_iff.1 hin with hin | hin
  · exact hc hin
  · exact h hin

theorem exists_chainText (text : List Char) :
    ∃ segments body, text = chainText segments body ∧ (∀ segment ∈ segments, NoArrow segment) ∧
      NoArrow body := by
  induction hlength : text.length using Nat.strong_induction_on generalizing text with
  | _ size ih =>
    subst hlength
    by_cases harrow : ['-', '>'] <+: text
    · obtain ⟨rest, rfl⟩ := harrow
      have hshorter : rest.length < rest.length + 2 := by omega
      obtain ⟨segments, body, rfl, hsegments, hbody⟩ := ih rest.length hshorter rest rfl
      refine ⟨[] :: segments, body, rfl, ?_, hbody⟩
      exact List.forall_mem_cons.2 ⟨noArrow_of_not_mem (by simp), hsegments⟩
    · cases text with
      | nil => exact ⟨[], [], rfl, by simp, noArrow_of_not_mem (by simp)⟩
      | cons c rest =>
        obtain ⟨segments, body, rfl, hsegments, hbody⟩ := ih rest.length (by simp) rest rfl
        cases segments with
        | nil => exact ⟨[], c :: body, rfl, by simp, noArrow_cons harrow hbody⟩
        | cons segment segments =>
          rw [List.forall_mem_cons] at hsegments
          have hc : ¬ ['-', '>'] <+: c :: segment := fun hin =>
            harrow (hin.trans ⟨'-' :: '>' :: chainText segments body, rfl⟩)
          exact ⟨(c :: segment) :: segments, body, rfl,
            List.forall_mem_cons.2 ⟨noArrow_cons hc hsegments.1, hsegments.2⟩, hbody⟩

/-- A character in front of a segment is a separator, a token, or the start of the next token. -/
theorem exists_spells_cons (c : Char) {segment : List Char} {tokens : List String}
    (h : Spells tokens segment) (htokens : ∀ token ∈ tokens, IsToken token) :
    ∃ tokens, Spells tokens (c :: segment) ∧ ∀ token ∈ tokens, IsToken token := by
  by_cases hc : isSeparator c = true
  · exact ⟨tokens, @Spells.after tokens [c] segment (by simpa using hc) h, htokens⟩
  rw [Bool.not_eq_true] at hc
  -- a token of its own, if no token starts right behind it
  have apart (hhead : segment.head?.all isSeparator) :
      ∃ tokens, Spells tokens (c :: segment) ∧ ∀ token ∈ tokens, IsToken token := by
    have hone : IsToken (String.singleton c) := ⟨by simp, by simpa using hc⟩
    have := @Spells.name [] segment (String.singleton c) tokens (by simp) hhead h
    exact ⟨_, by simpa using this, List.forall_mem_cons.2 ⟨hone, htokens⟩⟩
  cases h with
  | done hgap => exact apart (by cases segment <;> simp_all)
  | @name gap rest token tokens hgap hrest h =>
    cases gap with
    | cons d gap => exact apart (by simp_all)
    | nil =>
      rw [List.forall_mem_cons] at htokens
      have hlonger : IsToken (String.ofList (c :: token.toList)) :=
        ⟨by simp, by simpa using ⟨hc, htokens.1.noSeparator⟩⟩
      have := @Spells.name [] rest (String.ofList (c :: token.toList)) tokens (by simp) hrest h
      exact ⟨_, by simpa using this, List.forall_mem_cons.2 ⟨hlonger, htokens.2⟩⟩

/-- Every segment writes some tokens. -/
theorem exists_spells (segment : List Char) :
    ∃ tokens, Spells tokens segment ∧ ∀ token ∈ tokens, IsToken token := by
  induction segment with
  | nil => exact ⟨[], .done (by simp), by simp⟩
  | cons c segment ih =>
    obtain ⟨tokens, hspells, htokens⟩ := ih
    exact exists_spells_cons c hspells htokens

/-- A segment writes exactly the tokens that are read from it. -/
theorem spells_parameterTokens (segment : List Char) :
    Spells (parameterTokens segment) segment ∧
      ∀ token ∈ parameterTokens segment, IsToken token := by
  obtain ⟨tokens, hspells, htokens⟩ := exists_spells segment
  rw [parameterTokens_of_spells hspells htokens]
  exact ⟨hspells, htokens⟩

/-- A text cut at its arrows: the segments before them with the tokens that each of them writes, and
the body behind the last arrow. -/
structure Pieces (text : List Char) where
  segments : List (List Char)
  tokens : List (List String)
  body : List Char
  joined : text = chainText segments body
  noArrow : ∀ segment ∈ segments, NoArrow segment
  noArrow_body : NoArrow body
  spelled : List.Forall₂ Spells tokens segments
  isToken : ∀ row ∈ tokens, ∀ token ∈ row, IsToken token

/-- Every text can be cut. -/
theorem nonempty_pieces (text : List Char) : Nonempty (Pieces text) := by
  obtain ⟨segments, body, htext, hsegments, hbody⟩ := exists_chainText text
  refine ⟨⟨segments, segments.map parameterTokens, body, htext, hsegments, hbody, ?_, ?_⟩⟩
  · rw [List.forall₂_map_left_iff, List.forall₂_same]
    exact fun segment _ => (spells_parameterTokens segment).1
  · rw [List.forall_mem_map]
    exact fun segment _ => (spells_parameterTokens segment).2

theorem Pieces.tokens_eq {text : List Char} (pieces : Pieces text) :
    pieces.tokens = pieces.segments.map parameterTokens :=
  eq_map_parameterTokens ((List.forall₂_and_left _ _).2 ⟨pieces.isToken, pieces.spelled⟩)

/-! ### What is wrong with a parameter list -/

/-- The first token of a row that is no parameter, or repeats one. -/
inductive FirstFault (text : String) : List String → Fault → Prop
  | invalid {before after : List String} {name : String} (hbefore : IsParameterList before)
      (hname : isParameterName name = false) :
      FirstFault text (before ++ name :: after) (.invalidParameter name text)
  | repeated {before after : List String} {name : String} (hbefore : IsParameterList before)
      (hname : name ∈ before) :
      FirstFault text (before ++ name :: after) (.repeatedParameter name text)

theorem FirstFault.append {text : String} {row : List String} {fault : Fault}
    (h : FirstFault text row fault) (more : List String) : FirstFault text (row ++ more) fault := by
  cases h with
  | invalid hbefore hname =>
    rw [List.append_assoc]
    exact .invalid hbefore hname
  | repeated hbefore hname =>
    rw [List.append_assoc]
    exact .repeated hbefore hname

theorem IsParameterList.concat {row : List String} {name : String} (h : IsParameterList row)
    (hname : isParameterName name = true) (hnew : name ∉ row) :
    IsParameterList (row ++ [name]) where
  nodup := List.nodup_append.2 ⟨h.nodup, List.nodup_singleton name, by grind⟩
  allowed := by
    simp only [List.mem_append, List.mem_singleton]
    rintro other (hother | rfl)
    · exact h.allowed other hother
    · exact hname

theorem isParameterList_or_firstFault (text : String) (row : List String) :
    IsParameterList row ∨ ∃ fault, FirstFault text row fault := by
  induction row using List.reverseRec with
  | nil => exact .inl ⟨List.nodup_nil, by simp⟩
  | append_singleton row name ih =>
    rcases ih with hrow | ⟨fault, hfault⟩
    · by_cases hname : isParameterName name = true
      · by_cases hmem : name ∈ row
        · exact .inr ⟨_, .repeated hrow hmem⟩
        · exact .inl (hrow.concat hname hmem)
      · exact .inr ⟨_, .invalid hrow (by simpa using hname)⟩
    · exact .inr ⟨fault, hfault.append [name]⟩

/-- Behind tokens that make a parameter list, the search goes on with these tokens as seen. -/
theorem parameterFault?_append (text : String) {before : List String} (seen after : List String)
    (h : IsParameterList before) (hseen : ∀ name ∈ before, name ∉ seen) :
    parameterFault? text seen (before ++ after) =
      parameterFault? text (before.reverse ++ seen) after := by
  induction before generalizing seen with
  | nil => rfl
  | cons name before ih =>
    have hnodup := List.nodup_cons.1 h.nodup
    have hnew : seen.contains name = false := by simpa using hseen name (by simp)
    rw [List.cons_append, parameterFault?, h.allowed name (by simp), hnew]
    have := ih (name :: seen) ⟨hnodup.2, fun other hother => h.allowed other (by simp [hother])⟩
      (by grind)
    simpa using this

theorem parameterFault?_of_firstFault {text : String} {row : List String} {fault : Fault}
    (h : FirstFault text row fault) : parameterFault? text [] row = some fault := by
  cases h with
  | invalid hbefore hname =>
    rw [parameterFault?_append text [] _ hbefore (by simp), parameterFault?, hname]
    rfl
  | @repeated before after name hbefore hname =>
    have hseen : (before.reverse ++ []).contains name = true := by simpa using hname
    rw [parameterFault?_append text [] _ hbefore (by simp), parameterFault?,
      hbefore.allowed name hname, hseen]
    rfl

theorem readParameters_of_firstFault {text : String} {segment : List Char} {fault : Fault}
    (h : FirstFault text (parameterTokens segment) fault) :
    readParameters text segment = .error fault := by
  simp only [readParameters, parameterFault?_of_firstFault h]

/-! ### What is wrong with a chain -/

/-- The fault of the last row that is no parameter list. -/
inductive LastFault (text : String) : List (List String) → Fault → Prop
  | here {row : List String} {rows : List (List String)} {fault : Fault}
      (hrow : FirstFault text row fault) (hrows : ∀ later ∈ rows, IsParameterList later) :
      LastFault text (row :: rows) fault
  | later {row : List String} {rows : List (List String)} {fault : Fault}
      (hrows : LastFault text rows fault) : LastFault text (row :: rows) fault

theorem forall_isParameterList_or_lastFault (text : String) (rows : List (List String)) :
    (∀ row ∈ rows, IsParameterList row) ∨ ∃ fault, LastFault text rows fault := by
  induction rows with
  | nil => exact .inl (by simp)
  | cons row rows ih =>
    rcases ih with hrows | ⟨fault, hfault⟩
    · rcases isParameterList_or_firstFault text row with hrow | ⟨fault, hfault⟩
      · exact .inl (List.forall_mem_cons.2 ⟨hrow, hrows⟩)
      · exact .inr ⟨fault, .here hfault hrows⟩
    · exact .inr ⟨fault, .later hfault⟩

theorem readChain_of_lastFault {text : String} {segments : List (List Char)} (body : List Char)
    {fault : Fault} (h : LastFault text (segments.map parameterTokens) fault) (own : String) :
    readChain text own (segments ++ [body]) = .error fault := by
  induction segments generalizing own with
  | nil => nomatch h
  | cons segment segments ih =>
    cases segments with
    | nil =>
      cases h with
      | here hrow _ =>
        simp only [List.cons_append, List.nil_append, readChain, readParameters_of_firstFault hrow]
        rfl
      | later hrows => nomatch hrows
    | cons next segments =>
      rw [List.cons_append, List.cons_append, readChain_cons (by simp)]
      cases h with
      | here hrow hrows =>
        obtain ⟨inner, hinner, -⟩ := readChain_of_forall₂ body (readParameters_of_lists hrows)
          (by simp) (stageText (next :: (segments ++ [body])))
        rw [List.cons_append] at hinner
        rw [hinner, readParameters_of_firstFault hrow]
        rfl
      | later hrows =>
        have hinner := ih hrows (stageText (next :: (segments ++ [body])))
        rw [List.cons_append] at hinner
        rw [hinner]
        rfl

/-! ### Stages -/

def stages : Source → List Source
  | .last text form parameters body => [.last text form parameters body]
  | .stage text form parameters inner => .stage text form parameters inner :: inner.stages

theorem self_mem_stages (s : Source) : s ∈ s.stages := by
  cases s <;> simp [stages]

theorem depth_pos (s : Source) : 0 < s.depth := by
  cases s with
  | last => exact Nat.one_pos
  | stage text form parameters inner => exact Nat.add_pos_left Nat.one_pos inner.depth

theorem map_parameters_stages (s : Source) : s.stages.map parameters = s.parameterLists := by
  induction s with
  | last => rfl
  | stage text form parameters inner ih =>
    rw [stages, List.map_cons, ih]
    rfl

theorem length_parameterLists (s : Source) : s.parameterLists.length = s.depth := by
  induction s with
  | last => rfl
  | stage text form parameters inner ih =>
    rw [parameterLists, List.length_cons, ih, depth, Nat.add_comm]

theorem map_body?_stages (s : Source) :
    s.stages.map body? = List.replicate (s.depth - 1) none ++ [some s.finalBody] := by
  induction s with
  | last => rfl
  | stage text form parameters inner ih =>
    have hdepth : 1 + inner.depth - 1 = (inner.depth - 1) + 1 := by
      have := depth_pos inner
      omega
    rw [stages, List.map_cons, ih, depth, hdepth, List.replicate_succ]
    rfl

theorem exists_of_bind_eq_ok {ε α β : Type} {result : Except ε α} {next : α → Except ε β} {b : β}
    (h : (result >>= next) = .ok b) : ∃ a, result = .ok a ∧ next a = .ok b := by
  cases result with
  | error fault => cases h
  | ok a => exact ⟨a, rfl, h⟩

theorem readChain_arrow {text own : String} {pieces : List (List Char)} {s : Source}
    (h : readChain text own pieces = .ok s) : ∀ stage ∈ s.stages, stage.form = .arrow := by
  induction pieces generalizing own s with
  | nil =>
    cases h
    simp [stages, form]
  | cons segment pieces ih =>
    rcases pieces with - | ⟨next, - | ⟨third, rest⟩⟩
    · cases h
      simp [stages, form]
    · obtain ⟨parameters, -, hs⟩ := exists_of_bind_eq_ok h
      cases hs
      simp [stages, form]
    · rw [readChain_cons (by simp)] at h
      obtain ⟨inner, hinner, h⟩ := exists_of_bind_eq_ok h
      obtain ⟨parameters, -, hs⟩ := exists_of_bind_eq_ok h
      cases hs
      exact List.forall_mem_cons.2 ⟨rfl, ih hinner⟩

/-! ### Reading -/

theorem Pieces.read_eq {text : String} (pieces : Pieces text.toList) (hne : pieces.segments ≠ [])
    (operandName receiver : List Char) :
    ∃ segments, segments ≠ [] ∧ segments.map parameterTokens = pieces.tokens ∧
      read operandName receiver text =
        readChain text text (segments ++ [trimStart pieces.body]) := by
  rw [pieces.tokens_eq]
  exact read_chainText hne pieces.noArrow pieces.noArrow_body pieces.joined operandName receiver

/-- A text whose rows of tokens are parameter lists is read as the chain of these lists. -/
theorem Pieces.read_ok {text : String} (pieces : Pieces text.toList) (hne : pieces.segments ≠ [])
    (hrows : ∀ row ∈ pieces.tokens, IsParameterList row) (operandName receiver : List Char) :
    ∃ s, read operandName receiver text = .ok s ∧ s.stages.map parameters = pieces.tokens ∧
      (∀ stage ∈ s.stages, stage.form = .arrow) ∧
      s.finalBody = String.ofList (trimStart pieces.body) := by
  obtain ⟨segments, hsegments, htokens, hread⟩ := pieces.read_eq hne operandName receiver
  rw [← htokens] at hrows ⊢
  obtain ⟨s, hs, -, -, hlists, hfinal⟩ := readChain_of_forall₂ (trimStart pieces.body)
    (readParameters_of_lists hrows) hsegments text
  exact ⟨s, hread.trans hs, (map_parameters_stages s).trans hlists, readChain_arrow hs, hfinal⟩

theorem FirstFault.not_isParameterList {text : String} {row : List String} {fault : Fault}
    (h : FirstFault text row fault) : ¬ IsParameterList row := by
  intro hrow
  have hnone := parameterFault?_eq_none text [] hrow.allowed hrow.nodup (by simp)
  rw [parameterFault?_of_firstFault h] at hnone
  cases hnone

theorem LastFault.not_forall {text : String} {rows : List (List String)} {fault : Fault}
    (h : LastFault text rows fault) : ¬ ∀ row ∈ rows, IsParameterList row := by
  induction h with
  | here hrow _ => exact fun hrows => hrow.not_isParameterList (hrows _ List.mem_cons_self)
  | later _ ih => exact fun hrows => ih fun row hrow => hrows row (List.mem_cons_of_mem _ hrow)

theorem LastFault.syntax {text : String} {rows : List (List String)} {fault : Fault}
    (h : LastFault text rows fault) :
    fault.kind = "LambdaSyntaxError" ∧ fault.expression? = some text := by
  induction h with
  | here hrow _ => cases hrow <;> exact ⟨rfl, rfl⟩
  | later _ ih => exact ih

/-- A text with arrows is read as the chain of its tokens, if those of every segment are a parameter
list; if not, the last fault counts. -/
theorem Pieces.read_cases {text : String} (pieces : Pieces text.toList)
    (htext : ¬ NoArrow text.toList) (operandName receiver : List Char) :
    (∃ s, read operandName receiver text = .ok s ∧ (∀ row ∈ pieces.tokens, IsParameterList row) ∧
      s.stages.map parameters = pieces.tokens ∧ ∀ stage ∈ s.stages, stage.form = .arrow) ∨
    ∃ fault, read operandName receiver text = .error fault ∧
      LastFault text pieces.tokens fault := by
  have hne : pieces.segments ≠ [] := by
    intro hnil
    have hjoined := pieces.joined
    rw [hnil, chainText] at hjoined
    exact htext (hjoined ▸ pieces.noArrow_body)
  rcases forall_isParameterList_or_lastFault text pieces.tokens with hrows | ⟨fault, hfault⟩
  · obtain ⟨s, hs, hlists, hforms, -⟩ := pieces.read_ok hne hrows operandName receiver
    exact .inl ⟨s, hs, hrows, hlists, hforms⟩
  · obtain ⟨segments, -, htokens, hread⟩ := pieces.read_eq hne operandName receiver
    exact .inr ⟨fault, hread.trans (readChain_of_lastFault _ (htokens ▸ hfault) _), hfault⟩

/-- A text without arrows is read as one stage. A text with arrows is read, as the chain of its
tokens, if those of every segment are a parameter list; if not, its fault is the first one of the
last segment that has any. -/
theorem read_decided (operandName receiver : List Char) (text : String) :
    (NoArrow text.toList → ∃ s, read operandName receiver text = .ok s ∧ s.stages = [s]) ∧
    Nonempty (Pieces text.toList) ∧
    ∀ pieces : Pieces text.toList, ¬ NoArrow text.toList →
      ((∃ s, read operandName receiver text = .ok s) ↔
        ∀ row ∈ pieces.tokens, IsParameterList row) ∧
      (∀ s, read operandName receiver text = .ok s →
        s.stages.map parameters = pieces.tokens ∧ ∀ stage ∈ s.stages, stage.form = .arrow) ∧
      ∀ fault, read operandName receiver text = .error fault →
        LastFault text pieces.tokens fault ∧
          fault.kind = "LambdaSyntaxError" ∧ fault.expression? = some text := by
  refine ⟨fun htext => ?_, nonempty_pieces _, fun pieces htext => ?_⟩
  · obtain ⟨form, names, body, hplain, -⟩ := readPlain_spec operandName receiver htext
    exact ⟨_, (read_of_noArrow operandName receiver htext).trans (congrArg _ hplain), rfl⟩
  rcases pieces.read_cases htext operandName receiver with
    ⟨s, hs, hrows, hlists, hforms⟩ | ⟨fault, hread, hfault⟩
  · rw [hs]
    refine ⟨⟨fun _ => hrows, fun _ => ⟨s, rfl⟩⟩, ?_, by simp⟩
    rintro _ ⟨⟩
    exact ⟨hlists, hforms⟩
  · rw [hread]
    refine ⟨⟨by simp, fun hrows => absurd hrows hfault.not_forall⟩, by simp, ?_⟩
    rintro _ ⟨⟩
    exact ⟨hfault, hfault.syntax⟩

/-- A chain that is written out is read back, its parameter lists stage by stage and its body in the
last stage alone. -/
theorem read_rendered (operandName receiver : List Char) {text : String}
    {names : List (List String)} {segments : List (List Char)} {gap body : List Char}
    (hne : names ≠ []) (hlists : ∀ row ∈ names, IsParameterList row)
    (hspelled : List.Forall₂ Spells names segments)
    (hgap : ∀ c ∈ gap, isBlank c = true) (hbody : NoArrow body)
    (hstart : body.head?.all fun c => !isBlank c)
    (htext : text.toList = chainText segments (gap ++ body)) :
    ∃ s, read operandName receiver text = .ok s ∧
      s.depth = names.length ∧ s.stages.map parameters = names ∧
      (∀ stage ∈ s.stages, stage.form = .arrow) ∧
      s.stages.map body? =
        List.replicate (names.length - 1) none ++ [some (String.ofList body)] ∧
      s.finalBody = String.ofList body := by
  have hline : '-' ∉ gap := fun hmem => absurd (hgap '-' hmem) (by decide)
  have hsegments := (List.forall₂_and_left _ _).2 ⟨hlists, hspelled⟩
  let pieces : Pieces text.toList :=
    { segments, tokens := names, body := gap ++ body, joined := htext
      noArrow := noArrow_of_forall₂ hsegments
      noArrow_body := noArrow_append (noArrow_of_not_mem hline) hbody (.inl hline)
      spelled := hspelled
      isToken := fun row hrow => (hlists row hrow).isToken }
  have hfilled : pieces.segments ≠ [] := by
    rintro (rfl : segments = [])
    cases hspelled
    exact hne rfl
  obtain ⟨s, hs, hnames, hforms, hfinal⟩ := pieces.read_ok hfilled hlists operandName receiver
  have htrim : trimStart (gap ++ body) = body := by
    rw [trimStart, List.dropWhile_append_of_pos hgap]
    cases body <;> simp_all
  have hdepth : s.depth = names.length := by
    rw [← length_parameterLists, ← map_parameters_stages, hnames]
  rw [htrim] at hfinal
  exact ⟨s, hs, hdepth, hnames, hforms, by rw [map_body?_stages, hdepth, hfinal], hfinal⟩

/-- Commas and any blanks may stand between names, a stage may have no names, and blanks behind the
body stay. -/
theorem read_rendered_spread :
    ∃ s, read ['n'] ['s'] (String.ofList [',', 'a', ',', '\u3000', 'b', ' ', '-', '>', '\t', '-',
        '>', '\n', 'a', '-', '>', ' ', 'a', '>', ' ']) = .ok s ∧
      s.depth = 3 ∧ s.stages.map parameters = [["a", "b"], [], ["a"]] ∧
      (∀ stage ∈ s.stages, stage.form = .arrow) ∧
      s.stages.map body? = [none, none, some (String.ofList ['a', '>', ' '])] ∧
      s.finalBody = String.ofList ['a', '>', ' '] := by
  have hspelled : List.Forall₂ Spells [["a", "b"], [], ["a"]]
      [[',', 'a', ',', '\u3000', 'b', ' '], ['\t'], ['\n', 'a']] := by
    have hrows : [["a", "b"], [], ["a"]] = [[',', 'a', ',', '\u3000', 'b', ' '], ['\t'],
        ['\n', 'a']].map parameterTokens := by decide +kernel
    rw [hrows, List.forall₂_map_left_iff, List.forall₂_same]
    exact fun segment _ => (spells_parameterTokens segment).1
  have hblank : isBlank ' ' = true := by decide
  refine read_rendered ['n'] ['s'] (by simp) ?_ hspelled
    (List.forall_mem_singleton.2 hblank) ?_ (by decide) ?_
  · simp only [List.forall_mem_cons, List.not_mem_nil, false_imp_iff, implies_true, and_true]
    refine ⟨⟨?_, ?_⟩, ⟨?_, ?_⟩, ⟨?_, ?_⟩⟩ <;> decide +kernel
  · unfold NoArrow
    decide
  · rw [String.toList_ofList]
    rfl

end LambdaText.Source
