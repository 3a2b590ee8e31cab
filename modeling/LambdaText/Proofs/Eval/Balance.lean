import LambdaText.Proofs.Code.Balanced
import LambdaText.Proofs.Code.Blocks
import LambdaText.Proofs.Eval.Faults

/-!
# Brackets of bodies

A body is parsed in parentheses. So if a text is compiled, the brackets of its body match each other
and these parentheses: the body is balanced on its own, or it closes the parenthesis in front of it
and opens one for the parenthesis behind it. All other bodies are errors of syntax.
-/

namespace LambdaText

open LambdaText.Code LambdaText.Code.Brackets LambdaText.Function LambdaText.Text

/-! ### Blanks around a body -/

theorem mem_unifyBreaks {text : List Char} {c : Char} (h : c ∈ unifyBreaks text) :
    c ∈ text ∨ c = '\n' := by
  fun_induction unifyBreaks text <;> grind

theorem isNeutral_unifyBreaks {gap : List Char} (hgap : ∀ c ∈ gap, isBlank c = true) :
    ∀ c ∈ unifyBreaks gap, isNeutral c = true := by
  intro c hc
  rcases mem_unifyBreaks hc with hc | rfl
  · exact isNeutral_of (show marks.any isBlank = false by decide) (hgap c hc)
  · decide

/-- The line breaks behind content are made one on their own. -/
theorem unifyBreaks_content {text : List Char} (h : EndsInContent text) (hne : text ≠ [])
    (gap : List Char) : unifyBreaks (text ++ gap) = unifyBreaks text ++ unifyBreaks gap := by
  obtain ⟨front, c, rfl⟩ : ∃ front c, text = front ++ [c] := by
    simpa using (List.eq_nil_or_concat text).resolve_left hne
  have hc : isBlank c = false := h front c rfl
  have hfeed : c ≠ '\n' := by
    rintro rfl
    cases hc
  have hreturn : c ≠ '\r' := by
    rintro rfl
    cases hc
  rw [List.append_assoc, List.singleton_append, unifyBreaks_append_cons hfeed,
    unifyBreaks_append_cons hfeed, unifyBreaks_cons hreturn, unifyBreaks_cons hreturn]
  simp [unifyBreaks]

theorem not_blank_of_trim {text rest : List Char} {c : Char} (h : trim text = c :: rest) :
    isBlank c = false := by
  have hstart : (trimStart text).head? = some c := by
    obtain ⟨more, hmore⟩ := Source.trimEnd_isPrefix (trimStart text)
    rw [← hmore, ← trim, h]
    rfl
  have hhead := List.head?_dropWhile_not isBlank text
  rw [← trimStart, hstart] at hhead
  simpa using hhead

/-! ### Bodies -/

/-- Whether the brackets of a body match each other and the parentheses around it. -/
def HasMatchedBrackets (body : String) : Prop :=
  IsBalanced (unifyBreaks body.toList) ∨ ClosesAround (unifyBreaks body.toList)

theorem hasMatchedBrackets_of_due {body : String}
    (h : due? (.code, [')']) (unifyBreaks body.toList) = some [')']) : HasMatchedBrackets body :=
  due?_within (s := (.code, [])) h

/-- The text that is parsed for a body has tokens only if the brackets of the body match. -/
theorem hasMatchedBrackets_of_tokens {body : String} {tokens : List Token}
    (h : tokens? (bodyText body) = some tokens) : HasMatchedBrackets body := by
  obtain ⟨lead, trail, hbody, hlead, htrail, hends⟩ := exists_trim body.toList
  have hbalanced : due? (.code, []) (unifyBreaks (bodyText body)) = some [] :=
    isBalanced_of_tokens h
  have hopen : step (.code, []) '(' = some (.code, [')']) := rfl
  rw [bodyText, List.cons_append, unifyBreaks_cons (by decide), due?_cons_of hopen] at hbalanced
  refine hasMatchedBrackets_of_due ?_
  by_cases hnone : trim body.toList = []
  · have hblank : ∀ c ∈ body.toList, isBlank c = true := by
      rw [hbody, hnone, List.nil_append]
      intro c hc
      exact (List.mem_append.1 hc).elim (hlead c) (htrail c)
    exact due?_outside rfl (isNeutral_unifyBreaks hblank)
  · have hfirst : unifyBreaks body.toList =
        unifyBreaks lead ++ (unifyBreaks (trim body.toList) ++ unifyBreaks trail) := by
      obtain ⟨c, rest, hfront⟩ := List.exists_cons_of_ne_nil hnone
      have hfeed : c ≠ '\n' := by
        rintro rfl
        cases not_blank_of_trim hfront
      rw [← unifyBreaks_content hends hnone, hfront, List.cons_append,
        ← unifyBreaks_append_cons hfeed, ← List.cons_append, ← hfront, ← hbody]
    rw [unifyBreaks_content hends hnone, due?_append] at hbalanced
    obtain ⟨s, hs, hclosed⟩ := Option.bind_eq_some_iff.1 hbalanced
    obtain ⟨houtside, hdue⟩ := outside_of_closed hclosed
    rw [hfirst, due?_neutral (isNeutral_unifyBreaks hlead), due?_append, hs, Option.bind_some,
      due?_outside houtside (isNeutral_unifyBreaks htrail), hdue]

theorem hasMatchedBrackets_of_parseBody {source : Source} {e : Expr}
    (h : parseBody source = .ok e) : HasMatchedBrackets source.finalBody := by
  obtain ⟨tokens, htokens, -⟩ := Option.bind_eq_some_iff.1 (read?_of_parseBody h)
  exact hasMatchedBrackets_of_tokens htokens

theorem hasMatchedBrackets_of_compileResult {settings : Settings} {text : String}
    {source : Source} {f : List String × Expr}
    (h : compileResult settings text = .ok (source, f)) :
    HasMatchedBrackets source.finalBody := by
  obtain ⟨-, e, hread, -⟩ := compileResult_eq_ok h
  obtain ⟨tokens, htokens, -⟩ := Option.bind_eq_some_iff.1 hread
  exact hasMatchedBrackets_of_tokens htokens

theorem compileResult_unmatched {settings : Settings} {text : String} {source : Source}
    (hread : Source.read settings.operandName.toList settings.receiver.toList text = .ok source)
    (hnull : hasNull source.finalBody.toList = false)
    (hbrackets : ¬ HasMatchedBrackets source.finalBody) :
    ∃ e, compileResult settings text = .error e ∧ IsSyntaxError e := by
  have hbody : ∀ e, parseBody source ≠ .ok e := fun e he =>
    hbrackets (hasMatchedBrackets_of_parseBody he)
  rw [compileResult_of_read hread, sourceResult, hnull, if_neg Bool.false_ne_true]
  cases hfunction : sourceFunction source with
  | ok f =>
    obtain ⟨e, he, -⟩ := sourceFunction_eq_ok hfunction
    exact absurd he (hbody e)
  | error fault =>
    have habout : ∃ about, fault.expression? = some about := by
      rcases expression?_of_sourceFunction_eq_error hfunction with ⟨-, h⟩ | ⟨-, h⟩ <;>
        exact ⟨_, h⟩
    refine ⟨faultError fault, rfl, [.text fault.detailedMessage], some (.fault fault), ?_⟩
    rw [faultError, fault.kind_eq_syntax_iff.2 habout]

/-! ### Compiling -/

/-- If a text is compiled, the brackets of its body match each other and the parentheses that the
body is parsed in; all other bodies make compiling fail with an error of syntax. So a body is
balanced on its own, unless it closes the parenthesis in front of it. -/
theorem compiled_bodies_match (m : Machine) (address : Nat) (text : String) {given : Value}
    (hgiven : IsNamespace given) {s : State} (hs : s.Sound) :
    ∃ result t, (compileWith m address (.text text) given).ends s = some (result, t) ∧
      (∀ v, result = .ok v → ∃ k source f, v = .compiled k source f ∧
        Source.read (s.settingsAt address).operandName.toList
          (s.settingsAt address).receiver.toList text = .ok source ∧
        HasMatchedBrackets source.finalBody) ∧
      ∀ source, Source.read (s.settingsAt address).operandName.toList
          (s.settingsAt address).receiver.toList text = .ok source →
        hasNull source.finalBody.toList = false → ¬ HasMatchedBrackets source.finalBody →
        ∃ e, result = .error e ∧ IsSyntaxError e := by
  obtain ⟨result, t, hend, hmade⟩ := ends_compileWith_given m address text hgiven hs
  refine ⟨result, t, hend, ?_, ?_⟩
  · rintro v rfl
    unfold expressionRecipe at hmade
    cases hresult : compileResult (s.settingsAt address) text with
    | error e =>
      rw [hresult] at hmade
      cases hmade
    | ok found =>
      obtain ⟨source, f⟩ := found
      rw [hresult] at hmade
      cases hmade
      exact ⟨_, source, _, rfl, (compileResult_eq_ok hresult).1,
        hasMatchedBrackets_of_compileResult hresult⟩
  · intro source hread hnull hbrackets
    obtain ⟨e, hresult, he⟩ := compileResult_unmatched hread hnull hbrackets
    unfold expressionRecipe at hmade
    rw [hresult] at hmade
    cases hmade
    exact ⟨e, rfl, he⟩

/-- A text whose body closes the parenthesis in front of it. -/
def crossedText : String := "-> 1) + (2"

def crossedSource : Source := .last crossedText .arrow [] "1) + (2"

theorem compileResult_crossed : ∃ f, compileResult {} crossedText = .ok (crossedSource, f) := by
  have hread : Source.read (Settings.operandName {}).toList (Settings.receiver {}).toList
      crossedText = .ok crossedSource := rfl
  have hresult : (sourceResult crossedSource).toBool = true := by decide +kernel
  rw [compileResult_of_read hread]
  cases hfound : sourceResult crossedSource with
  | error e =>
    rw [hfound] at hresult
    cases hresult
  | ok f => exact ⟨f, rfl⟩

/-- The brackets of a body that is compiled match those around it. -/
theorem compiled_bodies_match_crossed :
    ∃ v t, (compileWith machine 0 (.text crossedText) .none).ends {} = some (.ok v, t) ∧
      ∃ k f, v = .compiled k crossedSource f ∧ HasMatchedBrackets crossedSource.finalBody := by
  have hgiven : IsNamespace .none := trivial
  obtain ⟨result, t, hend, hok, -⟩ :=
    compiled_bodies_match machine 0 crossedText hgiven State.sound_initial
  obtain ⟨f, hcompile⟩ := compileResult_crossed
  obtain ⟨log, htext⟩ := ends_compileText machine {} crossedText hgiven {}
  have hcompiled : (compileWith machine 0 (.text crossedText) .none).ends {} =
      compilingEnd {} .none log #[] (compileResult {} crossedText) :=
    (ends_compileWith_direct machine _ (.inr rfl)).trans htext
  rw [hcompile] at hcompiled
  obtain ⟨rfl, rfl⟩ := Prod.mk.inj (Option.some.inj (hend.symm.trans hcompiled))
  obtain ⟨k, source, g, hv, hread, hmatch⟩ := hok _ rfl
  cases hv
  exact ⟨_, _, hcompiled, _, _, rfl, hmatch⟩

/-- A text is compiled with a body that is not balanced on its own. -/
theorem crossed_body_compiled :
    ∃ k f t, (compileNew machine {} crossedText .none).ends {} =
        some (.ok (.compiled k crossedSource f), t) ∧
      ¬ IsBalanced (unifyBreaks crossedSource.finalBody.toList) := by
  obtain ⟨log, compilers, hc⟩ := ends_compileNew machine
    (show Settings.cacheSize {} < maxCapacity by decide) crossedText
    (show IsNamespace .none from trivial) {}
  obtain ⟨f, hcompile⟩ := compileResult_crossed
  rw [hcompile] at hc
  exact ⟨_, _, _, hc, nofun⟩

end LambdaText
