import LambdaText.Proofs.Eval.Compiling
import LambdaText.Proofs.Source.WrittenOut

/-!
# Compiling what is written out

A plain text and the same text written out with an arrow make the same function, or fail for the
same reason.
-/

namespace LambdaText

open LambdaText.Code LambdaText.Source LambdaText.Text

/-- What an error says, without the text it is about. -/
def errorSummary : Value → Option (String × String)
  | .error kind _ (some (.fault fault)) => some (kind, fault.summary)
  | .error kind [.text message] none => some (kind, message)
  | _ => none

/-- Whether two compilations come to the same: functions that answer every call alike, or errors
with the same summary. -/
def SameResult : Except Value Value → Except Value Value → Prop
  | .ok f, .ok g => ∀ positions keywords t,
    (machine.call f positions keywords).ends t = (machine.call g positions keywords).ends t
  | .error a, .error b => errorSummary a = errorSummary b
  | _, _ => False

theorem hasNull_trimStart (text : List Char) : hasNull (trimStart text) = hasNull text := by
  induction text with
  | nil => rfl
  | cons c text ih =>
    rw [trimStart, List.dropWhile_cons]
    split
    · next hc =>
      have hne : (Char.ofNat 0 == c) = false := by
        rw [beq_eq_false_iff_ne]
        rintro rfl
        exact absurd hc (by decide)
      rw [← trimStart, ih, hasNull, hasNull, List.contains_cons, hne, Bool.false_or]
    · rfl

/-- What a source of one stage comes to. -/
theorem sourceResult_last (text : String) (form : Form) (names : List String) (body : String) :
    sourceResult (.last text form names body) =
      if hasNull body.toList then .error nullError
      else if (trim body.toList).isEmpty then .error (faultError (.emptyBody text))
      else match Expr.read? (bodyText body) with
        | none => .error (faultError (.invalidBody text))
        | some e =>
          if isFunction names e then .ok (names, e)
          else .error (faultError (.invalidFunction text)) := by
  rw [sourceResult, Source.finalBody]
  split
  · rfl
  · rw [sourceFunction, parseBody, Source.finalBody]
    split
    · rfl
    · cases Expr.read? (bodyText body) with
      | none => rfl
      | some e =>
        change Except.mapError faultError (if isFunction names e then .ok (names, e)
            else .error (.invalidFunction text)) =
          if isFunction names e then .ok (names, e)
          else .error (faultError (.invalidFunction text))
        split <;> rfl

/-- Texts and leading blanks of the body do not matter for what a source of one stage makes. -/
theorem sourceResult_trimStart (text other : String) (form form' : Form) (names : List String)
    (body : String) :
    match sourceResult (.last text form names body),
      sourceResult (.last other form' names (String.ofList (trimStart body.toList))) with
    | .ok f, .ok g => f = g
    | .error a, .error b => errorSummary a = errorSummary b
    | _, _ => False := by
  rw [sourceResult_last, sourceResult_last, bodyText_trimStart, String.ofList_toList,
    String.toList_ofList, hasNull_trimStart,
    trim_trimStart]
  cases hasNull body.toList with
  | true => rfl
  | false =>
    cases (trim body.toList).isEmpty with
    | true => rfl
    | false =>
      cases Expr.read? (bodyText body) with
      | none => rfl
      | some e =>
        by_cases h : isFunction names e = true
        · simp [h]
        · simp only [h, Bool.false_eq_true, if_false]
          rfl

/-- A text without arrows is sugar for one with an arrow: written out it has one stage with the same
parameters and, but for blanks around it, the same body, and compiling both in the same state leaves
the same state but for the log and what compilers keep, and comes to the same. -/
theorem compile_writtenOut {settings : Settings} {text : String} {source : Source}
    {given : Value} (htext : NoArrow text.toList)
    (hread : Source.read settings.operandName.toList settings.receiver.toList text = .ok source)
    (hnames : ∀ n ∈ source.parameters, isIdentifier n.toList = true)
    (hgiven : IsNamespace given) (s : State) :
    (∃ body, Source.read settings.operandName.toList settings.receiver.toList
        (writtenOut source) = .ok (.last (writtenOut source) .arrow source.parameters body) ∧
      trim body.toList = trim source.finalBody.toList) ∧
    ∃ result result' t log compilers,
      (compileNew machine settings text given).ends s = some (result, t) ∧
      (compileNew machine settings (writtenOut source) given).ends s =
        some (result', { t with log, compilers }) ∧
      SameResult result result' := by
  have hout := read_writtenOut _ _ htext hread hnames
  refine ⟨⟨_, hout, by rw [String.toList_ofList, trim_trimStart]⟩, ?_⟩
  by_cases hsize : settings.cacheSize < maxCapacity
  · obtain ⟨log, compilers, hends⟩ := ends_compileNew machine hsize text hgiven s
    obtain ⟨log', compilers', hends'⟩ :=
      ends_compileNew machine hsize (writtenOut source) hgiven s
    have hsame := sourceResult_trimStart source.text (writtenOut source) source.form .arrow
      source.parameters source.finalBody
    have hlast : source = .last source.text source.form source.parameters source.finalBody := by
      rw [read_of_noArrow _ _ htext, Except.ok.injEq] at hread
      subst hread
      obtain ⟨form, names, body, hplain, -⟩ := readPlain_spec settings.operandName.toList
        settings.receiver.toList htext
      rw [hplain]
      rfl
    rw [← hlast] at hsame
    rw [hends, hends', compileResult_of_read hread, compileResult_of_read hout]
    split at hsame
    · next f g hf hg =>
      subst hsame
      rw [hf, hg]
      exact ⟨_, _, _, log', compilers', rfl, rfl, fun _ _ _ => rfl⟩
    · next a b ha hb =>
      rw [ha, hb]
      exact ⟨_, _, _, log', compilers', rfl, rfl, hsame⟩
    · exact hsame.elim
  · have hover := ends_newCompiler_overflow (Nat.not_lt.1 hsize) s
    exact ⟨.error overflowError, .error overflowError, s, s.log, s.compilers,
      Run.ends_bind_of_error hover _, Run.ends_bind_of_error hover _, rfl⟩

/-- A text that lacks its last operand takes it as its argument. -/
theorem compile_writtenOut_openEnded :
    let settings : Settings := { operandName := String.ofList ['n'] }
    let source : Source := .last (String.ofList ['x', '+']) .openEnded
      [String.ofList ['n', '2']] (String.ofList ['x', '+', 'n', '2'])
    (∃ body, Source.read settings.operandName.toList settings.receiver.toList
        (writtenOut source) = .ok (.last (writtenOut source) .arrow source.parameters body) ∧
      trim body.toList = trim source.finalBody.toList) ∧
    ∃ result result' t log compilers,
      (compileNew machine settings (String.ofList ['x', '+']) .none).ends {} = some (result, t) ∧
      (compileNew machine settings (writtenOut source) .none).ends {} =
        some (result', { t with log, compilers }) ∧
      SameResult result result' := by
  intro settings source
  have htext : NoArrow (String.ofList ['x', '+']).toList := by
    unfold NoArrow
    decide
  have hread : Source.read settings.operandName.toList settings.receiver.toList
      (String.ofList ['x', '+']) = .ok source := by
    rw [read_of_noArrow _ _ htext]
    exact congrArg Except.ok (show readPlain _ _ _ = _ by decide +kernel)
  exact compile_writtenOut htext hread (by decide +kernel)
    (show IsNamespace .none from trivial) {}

end LambdaText
