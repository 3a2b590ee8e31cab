import LambdaText.CommandLine.Basic
import LambdaText.Proofs.Datum.Reading
import LambdaText.Proofs.Datum.Values
import LambdaText.Proofs.Library.Coercion

/-!
# The command and the library

The command does with a text and written data what the library does with the text and the data: it
prints what the library's result is written as, tells the library's own faults, and leaves all other
errors as they are. Its own records are the only difference.
-/

namespace LambdaText

open LambdaText.Code LambdaText.Log

namespace Run

variable {α β : Type}

/-- Whether two computations end alike but for the log. -/
def SameApart (a b : Option (Except Value α × State)) : Prop :=
  ∃ log, b = a.map fun e => (e.1, { e.2 with log })

/-- Whether what a computation comes to does not depend on the log. -/
def IgnoresLog (r : Run α) : Prop :=
  ∀ (s : State) (log : Array Record), SameApart (r.ends s) (r.ends { s with log })

theorem SameApart.logged (e : Except Value α × State) (log : Array Record) :
    SameApart (some e) (some (e.1, { e.2 with log })) := ⟨log, rfl⟩

theorem SameApart.trans {a b c : Option (Except Value α × State)} (h : SameApart a b)
    (h' : SameApart b c) : SameApart a c := by
  obtain ⟨log, rfl⟩ := h
  obtain ⟨log', rfl⟩ := h'
  exact ⟨log', by rw [Option.map_map]; rfl⟩

/-- Computations that go on alike from states that differ in the log. -/
theorem SameApart.bind {r r' : Run α} {k k' : α → Run β} {s s' : State}
    (hr : SameApart (r.ends s) (r'.ends s'))
    (hk : ∀ a t log, r.ends s = some (.ok a, t) →
      SameApart ((k a).ends t) ((k' a).ends { t with log })) :
    SameApart ((r >>= k).ends s) ((r' >>= k').ends s') := by
  obtain ⟨log, hr⟩ := hr
  rw [ends_bind, ends_bind, hr]
  cases hfirst : r.ends s with
  | none => exact ⟨log, rfl⟩
  | some e =>
    obtain ⟨result, t⟩ := e
    cases result with
    | error e => exact .logged _ log
    | ok a => exact hk a t log hfirst

theorem IgnoresLog.bind {r : Run α} {k : α → Run β} (hr : r.IgnoresLog)
    (hk : ∀ a, (k a).IgnoresLog) : (r >>= k).IgnoresLog :=
  fun s log => (hr s log).bind fun a t log _ => hk a t log

theorem Detached.ignoresLog {r : Run α} (h : r.Detached) : r.IgnoresLog := by
  intro s log
  obtain ⟨log₀, hsame⟩ := h.blind s s.log s.environment s.shared
  obtain ⟨log', hother⟩ := h.blind s log s.environment s.shared
  refine ⟨log', hother.trans ?_⟩
  rw [State.within_self] at hsame
  cases hend : r.ends s with
  | none => rfl
  | some e =>
    -- The variables and the shared compiler are those of the start.
    rw [hend, Option.map_some, Option.some.injEq] at hsame
    rw [Option.map_some, Option.map_some, hsame]
    rfl

end Run

open Run

theorem ignoresLog_sharedCompiler : sharedCompiler.IgnoresLog := by
  intro s log
  obtain ⟨found, hfound⟩ : ∃ found, s.shared = found := ⟨_, rfl⟩
  cases found with
  | some address =>
    rw [ends_sharedCompiler_some hfound, ends_sharedCompiler_some (s := { s with log }) hfound]
    exact .logged _ log
  | none =>
    obtain ⟨log₁, h₁⟩ := ends_sharedCompiler_none hfound
    obtain ⟨log₂, h₂⟩ := ends_sharedCompiler_none (s := { s with log }) hfound
    rw [h₁, h₂]
    cases sharedSettings s.environment with
    | error e => exact ⟨log₂, rfl⟩
    | ok settings => exact ⟨log₂, rfl⟩

theorem ignoresLog_asCallable (m : Machine) [m.Detached] (text : String) :
    (asCallable m (.text text) .none).IgnoresLog := by
  have htext : asCallable m (.text text) .none = sharedCompiler >>= fun address =>
      if Source.hasReturn text.toList then compileBlock m (.text text) .none
      else compileWith m address (.text text) .none := rfl
  rw [htext]
  refine ignoresLog_sharedCompiler.bind fun address => ?_
  split
  · exact Detached.ignoresLog inferInstance
  · exact Detached.ignoresLog inferInstance

namespace CommandLine

/-! ### Words -/

/-- What a datum is written as is no divider, which would be read as a text. -/
theorem writtenForm_ne_divider {d : Datum} (h : d.IsPlain maxBrackets) : d.writtenForm ≠ "--" := by
  intro hdivider
  have hread := h.ofArgument
  have hnone : Expr.read? ("--".toList.dropWhile Datum.isIndent) = none := rfl
  have htext : Datum.ofArgument "--" = .ok (.text "--") := by
    rw [Datum.ofArgument, Datum.ofLiteral, hnone]
    rfl
  rw [hdivider, htext] at hread
  cases hread
  exact absurd hdivider (by decide)

theorem erase_divider {data : List Datum} (h : ∀ d ∈ data, d.IsPlain maxBrackets) :
    (data.map Datum.writtenForm).erase "--" = data.map Datum.writtenForm := by
  apply List.erase_of_not_mem
  rw [List.mem_map]
  rintro ⟨d, hd, hdivider⟩
  exact writtenForm_ne_divider (h d hd) hdivider

theorem walk_arguments (p : Progress) (e : String) (others words : List String)
    (h : p.stage = .within e others) :
    walk p (words.map .argument) =
      Progress.finish { p with stage := .within e (others ++ words) } := by
  induction words generalizing p others with
  | nil =>
    rw [List.append_nil, ← h]
    rfl
  | cons word words ih =>
    rw [List.map_cons, walk, ih (p.take word) (others ++ [word]) (by rw [Progress.take, h])]
    rw [Progress.take, h, List.append_assoc]
    rfl

/-- Words behind a divider are an expression and its arguments. -/
theorem read_divided (e : String) (words : List String) :
    read ("--" :: e :: words) = .request ⟨e, words.erase "--", false, false⟩ := by
  have hwords : readWords ("--" :: e :: words) =
      some (.divider :: .argument e :: words.map .argument) := rfl
  rw [read, hwords]
  exact walk_arguments { stage := .within e [] } e [] words rfl

theorem read_showParameters (e : String) (words : List String) :
    read ("--show-params" :: "--" :: e :: words) =
      .request ⟨e, words.erase "--", true, false⟩ := by
  have hwords : readWords ("--show-params" :: "--" :: e :: words) =
      some (.switch .showParameters :: .divider :: .argument e :: words.map .argument) := rfl
  rw [read, hwords]
  exact walk_arguments { stage := .within e [], showParameters := true } e [] words rfl

/-! ### Arguments -/

theorem mapM_readArgument {data : List Datum} (h : ∀ d ∈ data, d.IsPlain maxBrackets) :
    (data.map Datum.writtenForm).mapM readArgument = valuesOf data := by
  induction data with
  | nil => rfl
  | cons d data ih =>
    rw [List.forall_mem_cons] at h
    have hfirst : readArgument d.writtenForm = d.value := by
      rw [readArgument, h.1.ofArgument]
    rw [List.map_cons, List.mapM_cons, hfirst, ih h.2]
    rfl

/-- Data make values that can be written, whatever is in the log. -/
theorem exists_valuesOf {data : List Datum} (h : ∀ d ∈ data, d.IsPlain maxBrackets)
    (cells : Array Cell) :
    ∃ values cells', (∀ s : State, s.cells = cells →
        (valuesOf data).ends s = some (.ok values, { s with cells := cells' })) ∧
      ∀ s : State, s.cells = cells' →
        (values.mapM shown).ends s = some (.ok (Datum.writtenForms data), s) := by
  obtain ⟨values, more, hend, hshows⟩ :=
    makesFrom_valuesOf (fun d hd cells => (h d hd).makesFrom_value cells) cells
  exact ⟨values, cells ++ more, hend, fun s hs =>
    ends_mapM_ok (hshows.imp fun _ _ hv => hv.ends_shown hs)⟩

/-! ### What is done -/

/-- Calls the function of a text with data, and writes what it gives. -/
def writtenResult (m : Machine) (e : String) (data : List Datum) : Run String := do
  let f ← asCallable m (.text e) .none
  let values ← valuesOf data
  shown (← m.call f values [])

/-- What a text is made into has the parameters of a source, and is written without looking at
anything. -/
theorem exists_source_of_madeBy {recipe : Except Value (Source × Routine)} {f : Value}
    (h : MadeBy recipe (.ok f)) : ∃ source code, recipe = .ok (source, code) ∧
      parametersOf f = source.parameters ∧
      ∀ u, (shown f).ends u = some (.ok (compiledText source), u) := by
  cases h
  exact ⟨_, _, rfl, rfl, fun _ => rfl⟩

theorem exists_source_of_asCallable {m : Machine} {e : String} {f : Value} {s t : State}
    (hs : s.Sound) (h : (asCallable m (.text e) .none).ends s = some (.ok f, t)) :
    ∃ source code, textRecipe s.sharedSettings e = .ok (source, code) ∧
      parametersOf f = source.parameters ∧
      ∀ u, (shown f).ends u = some (.ok (compiledText source), u) := by
  obtain ⟨result, t', hend, -, hmade, -⟩ := ends_coerce_text m e hs
  rw [coerce, h] at hend
  cases hend
  exact exists_source_of_madeBy hmade

/-- Writes what a request without a switch prints, and makes a record of the call. -/
def recordedResult (m : Machine) (e : String) (arguments : List String) : Run String := do
  let f ← asCallable m (.text e) .none
  let values ← arguments.mapM readArgument
  let written ← values.mapM shown
  Run.log commandLog .debug s!"Calling {← shown f} with [{commaList written}]"
  shown (← m.call f values [])

theorem fulfil_call (m : Machine) (e : String) (arguments : List String) (debug : Bool) :
    fulfil m ⟨e, arguments, false, debug⟩ = recordedResult m e arguments >>= printLine := by
  simp only [fulfil, recordedResult, bind_assoc, Bool.false_eq_true, if_false]

theorem fulfil_showParameters (m : Machine) (e : String) (arguments : List String)
    (debug : Bool) : fulfil m ⟨e, arguments, true, debug⟩ =
      (asCallable m (.text e) .none >>= fun f => pure (commaList (parametersOf f))) >>=
        printLine := by
  simp only [fulfil, bind_assoc, pure_bind, if_true]

/-- The record of the call is all that a request does besides. -/
theorem sameApart_recordedResult (m : Machine) [m.Detached] (e : String) {data : List Datum}
    (hdata : ∀ d ∈ data, d.IsPlain maxBrackets) {s : State} (hs : s.Sound) (log : Array Record) :
    SameApart ((writtenResult m e data).ends s)
      ((recordedResult m e (data.map Datum.writtenForm)).ends { s with log }) := by
  rw [writtenResult, recordedResult, mapM_readArgument hdata]
  refine (ignoresLog_asCallable m e s log).bind fun f t log' hf => ?_
  obtain ⟨source, -, -, -, hname⟩ := exists_source_of_asCallable hs hf
  obtain ⟨values, cells, hvalues, hwritten⟩ := exists_valuesOf hdata t.cells
  rw [ends_bind_of_ok (hvalues t rfl), ends_bind_of_ok (hvalues { t with log := log' } rfl),
    ends_bind_of_ok (hwritten _ rfl), ends_bind_of_ok (hname _), ends_bind_of_ok (ends_log ..)]
  have hcall : (m.call f values []).IgnoresLog := Detached.ignoresLog inferInstance
  exact hcall.bind (fun v => Detached.ignoresLog inferInstance) _ _

/-- How the command ends, given how the text that it is to print is made: the text is printed,
faults of texts and of coercion are told, and other errors are left as they are. -/
def answered : Except Value String × State → Except Value Outcome × State
  | (.ok text, t) => (.ok (.finished 0 none), { t with output := t.output ++ text ++ "\n" })
  | (.error e, t) =>
    if isTold e then (.ok (.finished 1 (some (complaintAbout e))), t) else (.error e, t)

theorem answered_log (result : Except Value String) (t : State) (log : Array Record) :
    answered (result, { t with log }) =
      ((answered (result, t)).1, { (answered (result, t)).2 with log }) := by
  cases result with
  | ok text => rfl
  | error e =>
    simp only [answered]
    split <;> rfl

/-- Ends that differ in the log are answered alike. -/
theorem sameApart_answered {a b : Option (Except Value String × State)} (h : SameApart a b) :
    SameApart (a.map answered) (b.map answered) := by
  obtain ⟨log, rfl⟩ := h
  refine ⟨log, ?_⟩
  rw [Option.map_map, Option.map_map]
  exact congrArg a.map (funext fun result => answered_log result.1 result.2 log)

/-- In a valid environment a request is answered, after the environment has been read. -/
theorem ends_run_request (m : Machine) {words : List String} {r : Request}
    (hread : read words = .request r) {text : Run String} (htext : fulfil m r = text >>= printLine)
    {s : State} {settings : Settings} (hvalid : variablesResult s.environment = .ok settings) :
    ∃ log, (run m words).ends s = (text.ends { s with log }).map answered := by
  obtain ⟨log, hload⟩ := ends_environmentSettings s
  rw [hvalid] at hload
  refine ⟨log, ?_⟩
  simp only [run, hread]
  rw [ends_bind_of_ok hload, ends_tryCatch, htext, ends_bind, ends_bind]
  cases text.ends { s with log } with
  | none => rfl
  | some result =>
    obtain ⟨result, t⟩ := result
    cases result with
    | ok _ => rfl
    | error e =>
      simp only [Option.map_some, answered]
      split <;> rfl

theorem source_of_textRecipe {found : Except Value Settings} {e : String} {source : Source}
    {code : Routine} (h : textRecipe found e = .ok (source, code)) :
    if Source.hasReturn e.toList then source = .ofBlock e
    else ∃ settings, found = .ok settings ∧
      Source.read settings.operandName.toList settings.receiver.toList e = .ok source := by
  cases found with
  | error fault =>
    unfold textRecipe at h
    split at h <;> cases h
  | ok settings =>
    unfold textRecipe at h
    split at h
    · next hreturn =>
      rw [if_pos hreturn]
      change (blockResult e).map _ = _ at h
      cases hblock : blockResult e with
      | error fault =>
        rw [hblock] at h
        cases h
      | ok routine =>
        rw [hblock] at h
        cases h
        rfl
    · next hreturn =>
      rw [if_neg hreturn]
      change (compileResult settings e).map _ = _ at h
      cases hresult : compileResult settings e with
      | error fault =>
        rw [hresult] at h
        cases h
      | ok made =>
        rw [hresult] at h
        cases h
        exact ⟨settings, rfl, (compileResult_eq_ok hresult).1⟩

/-- In a valid environment, the command ends as writing the result of the library call does: it
prints the text that is written, tells a fault of a text or of coercion, and leaves any other error
as it is. With the switch it prints the parameters of the source, none for a block, and calls
nothing. Making a text callable prints nothing. -/
theorem command_agrees {s : State} (hs : s.Sound) {settings : Settings}
    (hvalid : variablesResult s.environment = .ok settings) (e : String) {data : List Datum}
    (hdata : ∀ d ∈ data, d.IsPlain maxBrackets) :
    SameApart (((writtenResult machine e data).ends s).map answered)
      ((run machine ("--" :: e :: data.map Datum.writtenForm)).ends s) ∧
    (∀ m : Machine, SameApart (((asCallable machine (.text e) .none).ends s).map fun made =>
        answered (made.1.map fun f => commaList (parametersOf f), made.2))
      ((run m ("--show-params" :: "--" :: e :: data.map Datum.writtenForm)).ends s)) ∧
    ∃ result t, (asCallable machine (.text e) .none).ends s = some (result, t) ∧
      t.output = s.output ∧ ∀ f, result = .ok f → ∃ source,
        parametersOf f = source.parameters ∧
        if Source.hasReturn e.toList then source = .ofBlock e
        else ∃ shared, s.sharedSettings = .ok shared ∧
          Source.read shared.operandName.toList shared.receiver.toList e = .ok source := by
  have hcoerce (m : Machine) : asCallable m (.text e) .none = asCallable machine (.text e) .none :=
    coerce_machine m machine (.text e)
  refine ⟨?_, fun m => ?_, ?_⟩
  · have hread := read_divided e (data.map Datum.writtenForm)
    rw [erase_divider hdata] at hread
    obtain ⟨log, hrun⟩ := ends_run_request machine hread (fulfil_call ..) hvalid
    rw [hrun]
    exact sameApart_answered (sameApart_recordedResult machine e hdata hs log)
  · obtain ⟨log, hrun⟩ := ends_run_request m (read_showParameters e (data.map Datum.writtenForm))
      (fulfil_showParameters ..) hvalid
    rw [hrun, hcoerce m]
    have hshown : (asCallable machine (.text e) .none >>= fun f =>
        (pure (commaList (parametersOf f)) : Run String)).IgnoresLog :=
      (ignoresLog_asCallable machine e).bind fun f => Detached.ignoresLog inferInstance
    have hmade : (asCallable machine (.text e) .none >>= fun f =>
          (pure (commaList (parametersOf f)) : Run String)).ends s =
        ((asCallable machine (.text e) .none).ends s).map fun made =>
          (made.1.map fun f => commaList (parametersOf f), made.2) := by
      rw [ends_bind]
      cases (asCallable machine (.text e) .none).ends s with
      | none => rfl
      | some made =>
        obtain ⟨made, t⟩ := made
        cases made <;> rfl
    have hanswered := sameApart_answered (hshown s log)
    rwa [hmade, Option.map_map] at hanswered
  · obtain ⟨result, t, hend, honly, hmade, -⟩ := ends_coerce_text machine e hs
    refine ⟨result, t, hend, by rw [honly.others], ?_⟩
    rintro f rfl
    obtain ⟨source, code, hrecipe, hparameters, -⟩ := exists_source_of_madeBy hmade
    exact ⟨source, hparameters, source_of_textRecipe hrecipe⟩

/-- Nested data for a text that is applied in a fresh process with a variable set. -/
theorem command_agrees_nested :
    let s : State := { environment := [("STRLAMBDA_SELF_KEYWORD", "this")] }
    let data : List Datum := [.list [.int (-3), .text "it's"], .dict [(.tuple [.none], .bool true)]]
    SameApart (((writtenResult machine "x y -> [y, x]" data).ends s).map answered)
      ((run machine ["--", "x y -> [y, x]", "[-3, \"it's\"]", "\x7b(None,): True\x7d"]).ends s) := by
  intro s data
  have hs : s.Sound := fun c hc => absurd hc (by simp [s])
  have hvalid : variablesResult s.environment = .ok { receiver := "this" } := by rfl
  have hlist : Datum.IsPlain maxBrackets (.list [.int (-3), .text "it's"]) := by
    refine .list ?_
    rw [List.forall_mem_cons, List.forall_mem_singleton]
    exact ⟨.int _ (by decide), .text _ _⟩
  have hdict : Datum.IsPlain maxBrackets (.dict [(.tuple [.none], .bool true)]) := by
    refine .dict ?_ ?_ ?_ (List.pairwise_singleton _ _) <;> rw [List.forall_mem_singleton]
    · exact .tuple (List.forall_mem_singleton.2 (.none _))
    · exact .bool _ true
    · rfl
  have hdata : ∀ d ∈ data, d.IsPlain maxBrackets := by
    rw [List.forall_mem_cons, List.forall_mem_singleton]
    exact ⟨hlist, hdict⟩
  have hwords : data.map Datum.writtenForm = ["[-3, \"it's\"]", "\x7b(None,): True\x7d"] := by
    decide +kernel
  rw [← hwords]
  exact (command_agrees hs hvalid _ hdata).1

end CommandLine

end LambdaText
