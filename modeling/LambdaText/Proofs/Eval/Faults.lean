import LambdaText.Proofs.Library.Coercion
import LambdaText.Proofs.Source.StageTexts

/-!
# What errors of syntax are about

An error of syntax shows the text that it is about, and its message has a line with this text, behind
which only details follow. Whatever is compiled and however, that is the text that was given, with
one exception: where the body of a chain of two parameter lists or more is blank or no expression,
the error is about the text of the last stage.
-/

namespace LambdaText

open LambdaText.Code LambdaText.Function LambdaText.Log LambdaText.Text

def IsSyntaxError (e : Value) : Prop :=
  ∃ arguments cause, e = .error "LambdaSyntaxError" arguments cause

/-- What may follow the text in the message of an error of syntax: nothing, or a line of details. -/
def IsDetails (details : String) : Prop := details = "" ∨ ∃ more, details = "\nDetails: " ++ more

/-- An error of syntax that shows a text, and has a line with it in its message. -/
structure IsSyntaxErrorAbout (text : String) (e : Value) : Prop where
  shows : ∀ s, (attributeOf e "expression").ends s = some (.ok (.text text), s)
  tells : ∃ summary details cause, IsDetails details ∧
    e = .error "LambdaSyntaxError" [.text (summary ++ "\nInput: '" ++ text ++ "'" ++ details)] cause

/-! ### Faults -/

theorem Fault.kind_eq_syntax_iff (fault : Fault) :
    fault.kind = "LambdaSyntaxError" ↔ ∃ text, fault.expression? = some text := by
  cases fault <;> simp [Fault.kind, Fault.expression?]

theorem ends_attributeOf_expression {kind text : String} {arguments : List Value} {fault : Fault}
    (h : fault.expression? = some text) (s : State) :
    (attributeOf (.error kind arguments (some (.fault fault))) "expression").ends s =
      some (.ok (.text text), s) := by
  have hplain : plainAttribute? (.error kind arguments (some (.fault fault))) "expression" =
      fault.expression?.map Value.text := rfl
  simp only [attributeOf, attribute?, libraryAttribute?, hplain, h]
  rfl

/-- The message of a fault about a text has the text behind the summary, and details at most after
it. -/
theorem Fault.detailedMessage_of_expression? {fault : Fault} {text : String}
    (h : fault.expression? = some text) : ∃ details, IsDetails details ∧
      fault.detailedMessage = fault.summary ++ "\nInput: '" ++ text ++ "'" ++ details := by
  have hmessage : fault.message = fault.summary ++ "\nInput: '" ++ text ++ "'" := by
    simp only [Fault.message, h]
    rfl
  unfold Fault.detailedMessage
  split
  · exact ⟨"\nDetails: " ++ Fault.detailsMark, .inr ⟨_, rfl⟩,
      by rw [hmessage]; simp only [toString, String.append_assoc]⟩
  · exact ⟨"", .inl rfl, by rw [hmessage, String.append_empty]⟩

theorem IsSyntaxErrorAbout.of_fault {fault : Fault} {text : String}
    (h : fault.expression? = some text) : IsSyntaxErrorAbout text (faultError fault) := by
  obtain ⟨details, hdetails, hmessage⟩ := Fault.detailedMessage_of_expression? h
  rw [faultError, fault.kind_eq_syntax_iff.2 ⟨text, h⟩, hmessage]
  exact ⟨ends_attributeOf_expression h, _, details, _, hdetails, rfl⟩

theorem IsSyntaxErrorAbout.unique {text text' : String} {e : Value}
    (h : IsSyntaxErrorAbout text e) (h' : IsSyntaxErrorAbout text' e) : text = text' := by
  have heq := (h.shows {}).symm.trans (h'.shows {})
  simpa using heq

/-! ### Compiling -/

theorem not_isSyntaxError_nullError : ¬ IsSyntaxError nullError := by
  rintro ⟨arguments, cause, h⟩
  simp [nullError] at h

theorem expression?_of_read_eq_error {operandName receiver : List Char} {text : String}
    {fault : Fault} (h : Source.read operandName receiver text = .error fault) :
    fault.expression? = some text := by
  obtain ⟨pieces⟩ := Source.nonempty_pieces text.toList
  by_cases harrow : Source.NoArrow text.toList
  · rw [Source.read_of_noArrow operandName receiver harrow] at h
    cases h
  · rcases pieces.read_cases harrow operandName receiver with ⟨s, hs, -⟩ | ⟨other, hread, hfault⟩
    · rw [hs] at h
      cases h
    · rw [hread] at h
      cases h
      exact hfault.syntax.2

/-- The fault of a body is about the text of the last stage, and the fault of a function with a
body about the text of the first one. -/
theorem expression?_of_sourceFunction_eq_error {s : Source} {fault : Fault}
    (h : sourceFunction s = .error fault) :
    ((∀ e, parseBody s ≠ .ok e) ∧ fault.expression? = some s.finalText) ∨
      ((∃ e, parseBody s = .ok e) ∧ fault.expression? = some s.text) := by
  unfold sourceFunction at h
  cases hbody : parseBody s with
  | error found =>
    rw [hbody] at h
    cases h
    refine .inl ⟨by simp, ?_⟩
    unfold parseBody at hbody
    split at hbody
    · cases hbody
      rfl
    · split at hbody
      · cases hbody
      · cases hbody
        rfl
  | ok e =>
    rw [hbody] at h
    simp only [bind, Except.bind] at h
    split at h
    · cases h
    · cases h
      exact .inr ⟨⟨e, rfl⟩, rfl⟩

/-- Whether a text is read as a chain of two parameter lists or more, with a body that is blank or
no expression. -/
def ChainBodyFails (settings : Settings) (text : String) : Prop :=
  ∃ source, Source.read settings.operandName.toList settings.receiver.toList text = .ok source ∧
    1 < source.depth ∧ ∀ e, parseBody source ≠ .ok e

/-- The last parameter list and the body of a text with arrows, with a plain arrow between them. -/
def IsLastStage (text last : String) : Prop :=
  ∃ front segment body, Source.sections text.toList = front ++ [segment, body] ∧
    last = Source.stageText [segment, body]

/-- What an error of syntax of a text that is compiled is about: the text as a whole, or its last
stage where the body of a chain of two stages or more fails. -/
def TellsText (settings : Settings) (text : String) (e : Value) : Prop :=
  (¬ ChainBodyFails settings text ∧ IsSyntaxErrorAbout text e) ∨
    (ChainBodyFails settings text ∧
      ∃ last, last ≠ text ∧ IsLastStage text last ∧ IsSyntaxErrorAbout last e)

theorem tellsText_of_compileResult {settings : Settings} {text : String} {e : Value}
    (he : IsSyntaxError e) (h : compileResult settings text = .error e) :
    TellsText settings text e := by
  unfold compileResult at h
  cases hread : Source.read settings.operandName.toList settings.receiver.toList text with
  | error fault =>
    rw [hread] at h
    cases h
    refine .inl ⟨?_, .of_fault (expression?_of_read_eq_error hread)⟩
    rintro ⟨source, hsource, -⟩
    rw [hread] at hsource
    cases hsource
  | ok source =>
    obtain ⟨hfirst, hsingle, hlater⟩ := Source.read_texts hread
    have hunique : ∀ other, Source.read settings.operandName.toList settings.receiver.toList text =
        .ok other → other = source := by
      intro other hother
      rw [hread] at hother
      exact (Except.ok.inj hother).symm
    rw [hread] at h
    dsimp only [sourceResult] at h
    split at h
    · cases h
      exact absurd he not_isSyntaxError_nullError
    cases hfunction : sourceFunction source with
    | ok f =>
      rw [hfunction] at h
      cases h
    | error fault =>
      rw [hfunction] at h
      cases h
      rcases expression?_of_sourceFunction_eq_error hfunction with
        ⟨hbody, habout⟩ | ⟨⟨body, hbody⟩, habout⟩
      · by_cases hdepth : 1 < source.depth
        · obtain ⟨hne, front, segment, rest, hsections, hlast⟩ := hlater hdepth
          exact .inr ⟨⟨source, hread, hdepth, hbody⟩, source.finalText, hne,
            ⟨front, segment, rest, hsections, hlast⟩, .of_fault habout⟩
        · have hone : source.depth = 1 := by
            have := source.depth_pos
            omega
          rw [hsingle hone] at habout
          refine .inl ⟨?_, .of_fault habout⟩
          rintro ⟨other, hother, hmore, -⟩
          rw [hunique other hother] at hmore
          exact hdepth hmore
      · rw [hfirst] at habout
        refine .inl ⟨?_, .of_fault habout⟩
        rintro ⟨other, hother, -, hfails⟩
        rw [hunique other hother] at hfails
        exact hfails body hbody

theorem isSyntaxErrorAbout_of_blockResult {text : String} {e : Value} (he : IsSyntaxError e)
    (h : blockResult text = .error e) : IsSyntaxErrorAbout text e := by
  unfold blockResult at h
  split at h
  · cases h
    exact absurd he not_isSyntaxError_nullError
  cases hfunction : blockFunction text with
  | ok code =>
    rw [hfunction] at h
    cases h
  | error fault =>
    have hfault : fault = .invalidBlock text := by
      unfold blockFunction at hfunction
      split at hfunction
      · split at hfunction
        · cases hfunction
        · cases hfunction
          rfl
      · cases hfunction
        rfl
    rw [hfunction, hfault] at h
    cases h
    exact .of_fault rfl

/-! ### Compilers -/

/-- A compiler compiles anew if there is a namespace or nothing is kept. -/
theorem ends_compileWith_direct (m : Machine) (text : Value) {address : Nat} {given : Value}
    {s : State} (h : given ≠ .none ∨ s.compilers[address]?.bind Compiler.cache = none) :
    (compileWith m address text given).ends s =
      (compileText m (s.settingsAt address) text given).ends s := by
  rw [compileWith, Run.ends_bind_of_ok (ends_compilerCache address s)]
  have hdirect : (compilerSettings address >>= fun found => compileText m found text given).ends s =
      (compileText m (s.settingsAt address) text given).ends s :=
    Run.ends_bind_of_ok (ends_compilerSettings address s) _
  rw [← hdirect]
  cases hcache : s.compilers[address]?.bind Compiler.cache with
  | none => cases given <;> rfl
  | some cache =>
    rcases h with hgiven | hnone
    · cases given with
      | none => exact absurd rfl hgiven
      | _ => rfl
    · rw [hcache] at hnone
      cases hnone

/-- What a compiler gives for a text, with or without a namespace, is made by the recipe of its
settings. -/
theorem ends_compileWith_given (m : Machine) (address : Nat) (text : String) {given : Value}
    (hgiven : IsNamespace given) {s : State} (hs : s.Sound) :
    ∃ result t, (compileWith m address (.text text) given).ends s = some (result, t) ∧
      MadeBy (expressionRecipe (s.settingsAt address) text) result := by
  cases given with
  | none =>
    obtain ⟨result, t, hend, -, hmade, -⟩ := ends_compileWith_made m address text hs
    exact ⟨result, t, hend, hmade⟩
  | dict cell =>
    obtain ⟨log, hend⟩ := ends_compileText m (s.settingsAt address) text hgiven s
    rw [ends_compileWith_direct m _ (.inl (by simp)), hend]
    obtain ⟨t, ht, -⟩ :=
      exists_compilingEnd (s.settingsAt address) s (.dict cell) log rfl text
    exact ⟨_, t, ht, madeBy_compiledAnew _ s text⟩
  | _ => exact hgiven.elim

theorem MadeBy.compileResult_error {settings : Settings} {text : String} {e : Value}
    (h : MadeBy (expressionRecipe settings text) (.error e)) :
    compileResult settings text = .error e := by
  unfold expressionRecipe at h
  cases hresult : compileResult settings text with
  | error found =>
    rw [hresult] at h
    cases h
    rfl
  | ok found =>
    rw [hresult] at h
    cases h

/-- A compiler fails with a text only if its settings make the text fail. -/
theorem compileResult_of_compileWith {m : Machine} {address : Nat} {text : String} {given : Value}
    (hgiven : IsNamespace given) {s t : State} (hs : s.Sound) {e : Value}
    (h : (compileWith m address (.text text) given).ends s = some (.error e, t)) :
    compileResult (s.settingsAt address) text = .error e := by
  obtain ⟨result, u, hend, hmade⟩ := ends_compileWith_given m address text hgiven hs
  rw [hend] at h
  cases h
  exact hmade.compileResult_error

theorem blockResult_of_compileBlock {m : Machine} {text : String} {given : Value}
    (hgiven : IsNamespace given) {s t : State} {e : Value}
    (h : (compileBlock m (.text text) given).ends s = some (.error e, t)) :
    blockResult text = .error e := by
  obtain ⟨log, hend⟩ := ends_compileBlock m text hgiven s
  rw [hend] at h
  cases hresult : blockResult text with
  | error found =>
    rw [hresult] at h
    cases h
    rfl
  | ok code =>
    rw [hresult] at h
    cases h

theorem not_isSyntaxError_of_sharedSettings {environment : List (String × String)} {e : Value}
    (h : sharedSettings environment = .error e) : ¬ IsSyntaxError e := by
  rintro ⟨arguments, cause, rfl⟩
  unfold sharedSettings variablesResult at h
  cases hvariables : Settings.ofVariables
      fun name => (environment.lookup name).map Datum.text with
  | error issues =>
    rw [hvariables] at h
    simp [Except.mapError] at h
  | ok settings =>
    rw [hvariables] at h
    simp only [Except.mapError] at h
    split at h
    · simp [overflowError] at h
    · cases h

theorem tellsText_of_asCallable {m : Machine} {text : String} {given : Value}
    (hgiven : IsNamespace given) {s t : State} (hs : s.Sound) {e : Value} (he : IsSyntaxError e)
    (h : (asCallable m (.text text) given).ends s = some (.error e, t)) :
    (Source.hasReturn text.toList = true → IsSyntaxErrorAbout text e) ∧
      (Source.hasReturn text.toList = false →
        ∃ settings, s.sharedSettings = .ok settings ∧ TellsText settings text e) := by
  have htext : asCallable m (.text text) given = LambdaText.sharedCompiler >>= fun address =>
      if Source.hasReturn text.toList then compileBlock m (.text text) given
      else compileWith m address (.text text) given := rfl
  obtain ⟨found, u, hshared, -, hsettings⟩ := ends_sharedCompiler s
  rw [htext] at h
  cases found with
  | error e' =>
    rw [Run.ends_bind_of_error hshared] at h
    cases h
    have hnone : s.sharedSettings = .error e := hsettings.symm
    unfold State.sharedSettings at hnone
    cases hs' : s.shared with
    | none =>
      rw [hs'] at hnone
      exact absurd he (not_isSyntaxError_of_sharedSettings hnone)
    | some address =>
      rw [hs'] at hnone
      cases hnone
  | ok address =>
    rw [Run.ends_bind_of_ok hshared] at h
    cases hreturn : Source.hasReturn text.toList with
    | true =>
      rw [hreturn, if_pos rfl] at h
      exact ⟨fun _ => isSyntaxErrorAbout_of_blockResult he (blockResult_of_compileBlock hgiven h),
        by simp⟩
    | false =>
      rw [hreturn, if_neg Bool.false_ne_true] at h
      exact ⟨by simp, fun _ => ⟨_, hsettings.symm, tellsText_of_compileResult he
        (compileResult_of_compileWith hgiven (keepsSound_sharedCompiler hs hshared) h)⟩⟩

/-- Every error of syntax is about one text: the one that is given, whatever the cause and wherever
it is found, unless the body of a chain of two parameter lists or more is blank or no expression;
then it is about the text of the last stage, which is another one. -/
theorem syntax_errors_tell_text (m : Machine) (text : String) {given : Value}
    (hgiven : IsNamespace given) {s t : State} (hs : s.Sound) {e : Value} (he : IsSyntaxError e) :
    (∀ address, (compileWith m address (.text text) given).ends s = some (.error e, t) →
      TellsText (s.settingsAt address) text e) ∧
    ((compileBlock m (.text text) given).ends s = some (.error e, t) →
      IsSyntaxErrorAbout text e) ∧
    ((asCallable m (.text text) given).ends s = some (.error e, t) →
      (Source.hasReturn text.toList = true → IsSyntaxErrorAbout text e) ∧
        (Source.hasReturn text.toList = false →
          ∃ settings, s.sharedSettings = .ok settings ∧ TellsText settings text e)) :=
  ⟨fun _ h => tellsText_of_compileResult he (compileResult_of_compileWith hgiven hs h),
    fun h => isSyntaxErrorAbout_of_blockResult he (blockResult_of_compileBlock hgiven h),
    tellsText_of_asCallable hgiven hs he⟩

/-- A chain of two parameter lists without a body. -/
def bodilessText : String := "x -> y -> "

theorem compileResult_bodiless :
    compileResult {} bodilessText = .error (faultError (.emptyBody "y -> ")) := by
  rfl

/-- The error of a chain without a body is about one text, which is that of its last stage. -/
theorem syntax_errors_tell_text_bodiless :
    ∃ e t, (compileWith machine 0 (.text bodilessText) .none).ends {} = some (.error e, t) ∧
      IsSyntaxError e ∧ TellsText {} bodilessText e := by
  have hgiven : IsNamespace .none := trivial
  obtain ⟨log, hend⟩ := ends_compileText machine {} bodilessText hgiven {}
  rw [compileResult_bodiless] at hend
  have hcompile : (compileWith machine 0 (.text bodilessText) .none).ends {} =
      some (.error (faultError (.emptyBody "y -> ")), { log }) :=
    (ends_compileWith_direct machine _ (.inr rfl)).trans hend
  have he : IsSyntaxError (faultError (.emptyBody "y -> ")) := ⟨_, _, rfl⟩
  exact ⟨_, _, hcompile, he,
    (syntax_errors_tell_text machine bodilessText hgiven State.sound_initial he).1 0 hcompile⟩

/-- A chain without a body does not tell the text that was given. -/
theorem bodiless_chain_tells_stage :
    ∃ e t, (compileNew machine {} bodilessText .none).ends {} = some (.error e, t) ∧
      IsSyntaxErrorAbout "y -> " e ∧ ¬ IsSyntaxErrorAbout bodilessText e := by
  obtain ⟨log, compilers, hc⟩ := ends_compileNew machine
    (show Settings.cacheSize {} < maxCapacity by decide) bodilessText
    (show IsNamespace .none from trivial) {}
  rw [compileResult_bodiless] at hc
  have habout : IsSyntaxErrorAbout "y -> " (faultError (.emptyBody "y -> ")) := .of_fault rfl
  exact ⟨_, _, hc, habout, fun h => absurd (h.unique habout) (by decide)⟩

end LambdaText
