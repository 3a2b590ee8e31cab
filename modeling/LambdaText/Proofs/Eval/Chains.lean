import LambdaText.Proofs.Eval.SharedNames

/-!
# What a chain means

Calling all stages of a compiled chain evaluates its body where the parameters of the stages have
their arguments as values, those of later stages in front of those of earlier ones, and all of them
in front of the namespace and the built-in names. That is as good as one frame for the parameters of
all stages, unless a scope is shown as such: the stages are functions one in the other, of which each
sees only the names of the others that it mentions.
-/

namespace LambdaText

open LambdaText.Code LambdaText.Function LambdaText.Source LambdaText.Text

/-! ### Compiled chains -/

theorem compiledFunction_eq (s : State) {source : Source} {names : List String}
    {rest : List (List String)} (h : source.parameterLists = names :: rest) (e : Expr) :
    compiledFunction s (source.parameters, stageBody source e) =
      stageFunction s.serial ⟨[], s.cells.size, ""⟩ "<lambda>" names (stagesAround rest e) := by
  rw [parameterLists_eq, List.cons.injEq] at h
  rw [compiledFunction, stageBody_eq, h.1, h.2]
  rfl

/-- The function of a text that is compiled in a state, with these stages. -/
def chainFunction (s : State) (id : Nat) (source : Source) (names : List String)
    (rest : List (List String)) (e : Expr) : Value :=
  .compiled id source (stageFunction s.serial ⟨[], s.cells.size, ""⟩ "<lambda>" names
    (stagesAround rest e))

theorem chainFunction_of_compileNew {settings : Settings} {text : String} {ps : List String}
    {rest : List (List String)} {body : List Char} {given c : Value} {s t : State} {e : Expr}
    (htext : Writes text (ps :: rest) body) (hgiven : IsNamespace given)
    (hc : (compileNew machine settings text given).ends s = some (.ok c, t))
    (he : Expr.read? (bodyText (String.ofList body)) = some e) :
    ∃ id source log k serial, c = chainFunction s id source ps rest e ∧
      t = afterCompiling s given log k serial := by
  obtain ⟨log, k, hends⟩ :=
    ends_compileNew_push machine (cacheSize_lt_of_ends_compileNew hc) text hgiven s
  obtain ⟨source, f, -, -, hresult, -, -⟩ := compiled_of_ends_compileNew hgiven hc
  obtain ⟨hread, e', he', rfl⟩ := compileResult_eq_ok hresult
  obtain ⟨source', hread', -, -, hlists, hfinal⟩ :=
    read_of_writes htext settings.operandName.toList settings.receiver.toList
  cases hread.symm.trans hread'
  rw [hfinal, bodyText_trimStart, he, Option.some.injEq] at he'
  subst he'
  rw [hresult] at hends
  cases hc.symm.trans hends
  exact ⟨_, source, log, k, s.serial + 2, congrArg _ (compiledFunction_eq s hlists e), rfl⟩

/-- Calls of all stages evaluate the body in the frames of all of them, where no frame has been
entered since the text was compiled. -/
theorem ends_callInTurn_chain {s t : State} {n : Nat} (id : Nat) (source : Source) {e : Expr}
    {ps : List String} {row : List Value} {rest : List (List String)} {rows : List (List Value)}
    (hlength : ps.length = row.length)
    (hrows : List.Forall₂ (fun ps row => ps.length = row.length) rest rows)
    (hyields : e.usage.yields = false) (hdepth : t.depth < Run.maxDepth)
    (ht : t.frames.size = s.frames.size) :
    (callInTurn (machineAt (n + 3)) (chainFunction s id source ps rest e) (row :: rows)).ends t =
      (Run.deeper ((machineAt (n + 3 - if rest.length = 0 then 2 else 1)).expr
        (stageScope s rest.length) e)).ends
        (t.entered (chainFrames (ps :: rest) e (row :: rows))) := by
  rw [stageScope, Scope.inside, ← ht]
  exact ends_callInTurn_compiled_all id source hyields hlength hrows s.serial ⟨[], s.cells.size, ""⟩
    "<lambda>" hdepth

/-! ### What names mean -/

/-- Whether in a scope every name that is not a constant has the value of a layer, or else of a
namespace, or else of the built-in names. -/
def Scope.GivesNames (scope : Scope) (t : State) (layer : List (String × Value)) (s : State)
    (given : Value) : Prop :=
  ∀ name, (nameValue scope name).ends t =
    if name = lockedName then some (.ok (.bool true), t)
    else match ((layer.lookup name).or (namespaceValue? s given name)).or
      (entryValue? builtinEntries.toList name) with
    | some v => some (.ok v, t)
    | none => (lookupBuiltin (globalEntries s given) name).ends t

theorem Scope.Binds.givesNames {scope : Scope} {t s : State} {given : Value}
    {layers : List (List (String × Value))} {layer : List (String × Value)}
    (h : scope.Binds t layers (globalEntries s given))
    (hlayers : ∀ name, layers.flatten.lookup name = layer.lookup name) :
    scope.GivesNames t layer s given := by
  intro name
  have hvalue : (layers.flatten.lookup name).or (entryValue? (globalEntries s given).toList name) =
      ((layer.lookup name).or (namespaceValue? s given name)).or
        (entryValue? builtinEntries.toList name) := by
    rw [hlayers, entryValue?_globalEntries, Option.or_assoc]
  by_cases hname : name = lockedName
  · rw [if_pos hname, nameValue, if_pos (by simpa using hname)]
    rfl
  · rw [if_neg hname, nameValue_of_ne scope hname, ← hvalue]
    exact h.ends_lookupName name

/-- The body of a chain sees the layers of the frames around it, the innermost one first. -/
theorem binds_stageScope {frames : List Frame} {layers : List (List (String × Value))}
    (hlayers : List.Forall₂ Frame.Holds frames layers) {k : Nat} (hlength : frames.length = k + 1)
    (s : State) (given : Value) (log : Array Log.Record) (c : Compiler) (serial : Nat) :
    (stageScope s k).Binds ((afterCompiling s given log c serial).entered frames) layers.reverse
      (globalEntries s given) := by
  have hscope : Scope.Binds ⟨[], s.cells.size, ""⟩ (afterCompiling s given log c serial) []
      (globalEntries s given) := ⟨.nil, Array.getElem?_push_size⟩
  have hbinds := hscope.inside hlayers "<lambda>" hlength
  rwa [List.append_nil] at hbinds

/-! ### One frame for all stages -/

/-- A frame without names. -/
def emptyFrame : Frame := {}

theorem holds_emptyFrame : emptyFrame.Holds [] where
  globals := rfl
  slot _ _ h := nomatch h
  noSlot _ _ := Array.findIdx?_empty

/-- As many frames as stages, of which the innermost one gives all parameters their arguments, those
of later stages first, and the others give none. -/
def mergedFrames (names : List (List String)) (e : Expr) (rows : List (List Value)) : List Frame :=
  List.replicate (names.length - 1) emptyFrame ++
    [stageFrame names.reverse.flatten e rows.reverse.flatten]

theorem length_mergedFrames {names : List (List String)} (hne : names ≠ []) (e : Expr)
    (rows : List (List Value)) : (mergedFrames names e rows).length = names.length := by
  have hpos := List.length_pos_iff.2 hne
  rw [mergedFrames, List.length_append, List.length_replicate, List.length_singleton]
  omega

theorem zip_flatten_reverse {names : List (List String)} {rows : List (List Value)}
    (h : List.Forall₂ (fun ps row => ps.length = row.length) names rows) :
    names.reverse.flatten.length = rows.reverse.flatten.length ∧
      names.reverse.flatten.zip rows.reverse.flatten = (stageLayers names rows).flatten := by
  rw [stageLayers]
  induction h with
  | nil => exact ⟨rfl, rfl⟩
  | cons hlength _ ih =>
    simp only [List.reverse_cons, List.flatten_append, List.flatten_singleton, List.length_append,
      List.zipWith_cons_cons]
    exact ⟨by rw [ih.1, hlength], by rw [List.zip_append ih.1, ih.2]⟩

theorem holds_mergedFrames {names : List (List String)} {rows : List (List Value)} {e : Expr}
    (h : List.Forall₂ (fun ps row => ps.length = row.length) names rows)
    (hbound : e.usage.bound = []) :
    List.Forall₂ Frame.Holds (mergedFrames names e rows)
      (List.replicate (names.length - 1) [] ++ [(stageLayers names rows).flatten]) := by
  obtain ⟨hlength, hzip⟩ := zip_flatten_reverse h
  have hempty (n : Nat) :
      List.Forall₂ Frame.Holds (List.replicate n emptyFrame) (List.replicate n []) := by
    induction n with
    | zero => exact .nil
    | succ n ih => exact .cons holds_emptyFrame ih
  exact List.rel_append (hempty _) (.cons (hzip ▸ holds_stageFrame hlength hbound) .nil)

theorem flatten_replicate_nil_append (n : Nat) (layer : List (String × Value)) :
    (List.replicate n [] ++ [layer]).reverse.flatten = layer := by
  simp

section Calls

variable {s : State} {e : Expr} {ps : List String}
  {rest : List (List String)} {row : List Value} {rows : List (List Value)} {given : Value}
  {log : Array Log.Record} {k : Compiler} {serial : Nat}

/-- The rows of all stages evaluate the body, also where it is noted whether a scope is shown. -/
theorem ends_callInTurn_machine (id : Nat) (source : Source) {t : State}
    (hlength : ps.length = row.length)
    (hrows : List.Forall₂ (fun ps row => ps.length = row.length) rest rows)
    (hyields : e.usage.yields = false) (hdepth : t.depth < Run.maxDepth)
    (ht : t.frames.size = s.frames.size) :
    (callInTurn machine (chainFunction s id source ps rest e) (row :: rows)).ends t =
      (Run.deeper ((machineAt (bodyLevel (ps :: rest).length)).expr
        (stageScope s rest.length) e)).ends
        (t.entered (chainFrames (ps :: rest) e (row :: rows))) := by
  obtain ⟨n, hn⟩ : ∃ n, topLevel = n + 3 := ⟨topLevel - 3, by decide⟩
  have hlevel : bodyLevel (ps :: rest).length = n + 3 - if rest.length = 0 then 2 else 1 := by
    rw [bodyLevel, hn, List.length_cons]
    simp
  rw [machine, hn, hlevel]
  exact ends_callInTurn_chain id source hlength hrows hyields hdepth ht

/-- In the frames of all stages, names have the values of the last stages that have them. -/
theorem givesNames_chainFrames (hbound : e.usage.bound = []) (hyields : e.usage.yields = false)
    (hrows : List.Forall₂ (fun ps row => ps.length = row.length) (ps :: rest) (row :: rows)) :
    (stageScope s rest.length).GivesNames
      ((afterCompiling s given log k serial).entered (chainFrames (ps :: rest) e (row :: rows)))
      (stageLayers (ps :: rest) (row :: rows)).flatten s given :=
  (binds_stageScope (holds_chainFrames hbound hyields hrows) (length_chainFrames hrows e) s given log
    k serial).givesNames fun _ => rfl

theorem givesNames_mergedFrames (hbound : e.usage.bound = [])
    (hrows : List.Forall₂ (fun ps row => ps.length = row.length) (ps :: rest) (row :: rows)) :
    (stageScope s rest.length).GivesNames
      ((afterCompiling s given log k serial).entered (mergedFrames (ps :: rest) e (row :: rows)))
      (stageLayers (ps :: rest) (row :: rows)).flatten s given := by
  refine (binds_stageScope (holds_mergedFrames hrows hbound)
    (length_mergedFrames (List.cons_ne_nil ps rest) e (row :: rows)) s given log k
    serial).givesNames fun name => ?_
  rw [flatten_replicate_nil_append]

theorem sameUnlessShown_mergedFrames (hbound : e.usage.bound = [])
    (hyields : e.usage.yields = false)
    (hrows : List.Forall₂ (fun ps row => ps.length = row.length) (ps :: rest) (row :: rows))
    (hs : s.IsSettled) (hsettled : Settled s (row :: rows)) (n : Nat) {calls : List StageCall}
    (hcalls : Settled s calls) :
    let run := callThen machine (Run.deeper ((machineAt n).expr (stageScope s rest.length) e)) calls
    let t := (afterCompiling s given log k serial).watched
    SameUnlessShown s rest.length
      (run.ends (t.entered (chainFrames (ps :: rest) e (row :: rows))))
      (run.ends (t.entered (mergedFrames (ps :: rest) e (row :: rows)))) := by
  refine .of_endsAlike (endsAlike_entered hs given log log k k serial
    (holds_chainFrames hbound hyields hrows) (holds_mergedFrames hrows hbound)
    (length_chainFrames hrows e) (length_mergedFrames (List.cons_ne_nil ps rest) e (row :: rows))
    (clear_chainFrames _ hsettled e) (fun name => ?_) n e hcalls)
  rw [flatten_replicate_nil_append]
  rfl

end Calls

/-! ### Chains -/

/-- Calls of a compiled chain, with as many arguments as each stage has parameters. Every call but
the last one gives a function and evaluates nothing. The last one evaluates the body where the frames
of all stages are around it; there, a name that is not a constant has the value of the last stage
that has it as a parameter, or else of the namespace, or else of the built-in names. If no scope is
shown as such, the outcome is the one of the body where one frame gives all parameters their values,
and so are the outcomes of all calls of what it comes to. -/
theorem compiled_chain {settings : Settings} {text : String} {names : List (List String)}
    {body : List Char} {given c : Value} {s s₁ : State} {e : Expr} {rows : List (List Value)}
    (htext : Writes text names body) (hgiven : IsNamespace given)
    (hc : (compileNew machine settings text given).ends s = some (.ok c, s₁))
    (hdepth : s.depth < Run.maxDepth)
    (he : Expr.read? (bodyText (String.ofList body)) = some e)
    (hbound : e.usage.bound = []) (hyields : e.usage.yields = false)
    (hrows : List.Forall₂ (fun ps row => ps.length = row.length) names rows) :
    (∀ j < names.length, ∃ f t, (callInTurn machine c (rows.take j)).ends s₁ = some (.ok f, t) ∧
      f.isCallable = true ∧ OnlyEntered s₁ t) ∧
    (callInTurn machine c rows).ends s₁ =
      (Run.deeper ((machineAt (bodyLevel names.length)).expr
        (stageScope s (names.length - 1)) e)).ends (s₁.entered (chainFrames names e rows)) ∧
    (stageScope s (names.length - 1)).GivesNames (s₁.entered (chainFrames names e rows))
      (stageLayers names rows).flatten s given ∧
    (stageScope s (names.length - 1)).GivesNames (s₁.entered (mergedFrames names e rows))
      (stageLayers names rows).flatten s given ∧
    (s.IsSettled → Settled s rows → ∀ calls : List StageCall, Settled s calls →
      SameUnlessShown s (names.length - 1)
        ((callThen machine (callInTurn machine c rows) calls).ends s₁.watched)
        ((callThen machine (Run.deeper ((machineAt (bodyLevel names.length)).expr
          (stageScope s (names.length - 1)) e)) calls).ends
            (s₁.watched.entered (mergedFrames names e rows)))) := by
  have hsame := hrows
  cases hrows with
  | nil => exact absurd rfl htext.ne_nil
  | @cons ps row rest rows hlength hrest =>
    obtain ⟨id, source, log, k, serial, rfl, rfl⟩ :=
      chainFunction_of_compileNew htext hgiven hc he
    have hlast : (ps :: rest).length - 1 = rest.length := rfl
    rw [hlast]
    refine ⟨fun j hj => ?_, ends_callInTurn_machine id source hlength hrest hyields hdepth rfl,
      givesNames_chainFrames hbound hyields hsame, givesNames_mergedFrames hbound hsame,
      fun hs hsettled calls hcalls => ?_⟩
    · obtain ⟨n, hn⟩ : ∃ n, topLevel = n + 3 := ⟨topLevel - 3, by decide⟩
      have hstage : IsStage (stageFunction s.serial ⟨[], s.cells.size, ""⟩ "<lambda>" ps
          (stagesAround rest e)) ⟨[], s.cells.size, ""⟩ (ps :: rest) e := ⟨_, _, ps, rest, rfl, rfl⟩
      rw [machine, hn]
      exact ends_callInTurn_compiled_take hsame hstage
        (s := afterCompiling s given log k serial) hdepth hj
    · have hends := ends_callInTurn_machine (s := s) id source
        (t := (afterCompiling s given log k serial).watched) hlength hrest hyields hdepth rfl
      rw [ends_callThen_congr hends]
      exact sameUnlessShown_mergedFrames hbound hyields hsame hs hsettled _ hcalls

theorem isSettled_start : State.IsSettled {} where
  cells _ _ _ _ := (has_emptyArray (c := default)).clear trivial
  frames _ _ _ _ := (has_emptyArray (c := default)).clear trivial
  handled _ _ _ _ := (has_nil (c := default)).clear trivial
  caches _ _ _ _ := (has_nil (c := default)).clear trivial

theorem settled_of_has {α : Type} [Valued α] {s : State} {a : α}
    (h : ∀ V : Veil, Has (default : Facts V) a) : Settled s a :=
  fun V _ _ _ => (h V).clear trivial

/-- The second stage shadows a name of the first one. -/
theorem compiled_chain_shadowing :
    ∃ c s t,
      (compileNew machine {} shadowingText .none).ends {} = some (.ok c, s) ∧
      (callInTurn machine c [[.int 7, .int 2], [.int 3]]).ends s.watched = some (.ok (.int 4), t) ∧
      SameStagedOutcome {} 1
        ((callThen machine (callInTurn machine c [[.int 7, .int 2], [.int 3]]) []).ends s.watched)
        ((callThen machine (Run.deeper ((machineAt (bodyLevel 2)).expr (stageScope {} 1)
          shadowingBody)) []).ends (s.watched.entered (mergedFrames [["x", "y"], ["y"]]
            shadowingBody [[.int 7, .int 2], [.int 3]]))) := by
  have hnone : IsNamespace .none := trivial
  have hdepth : (0 : Nat) < Run.maxDepth := by decide
  have hbody : Expr.read? (bodyText (String.ofList ['x', '-', 'y'])) = some shadowingBody := rfl
  have hrows : List.Forall₂ (fun (ps : List String) (row : List Value) => ps.length = row.length)
      [["x", "y"], ["y"]] [[.int 7, .int 2], [.int 3]] := .cons rfl (.cons rfl .nil)
  have hsettled : Settled {} [[Value.int 7, .int 2], [.int 3]] :=
    settled_of_has fun V => inferInstance
  obtain ⟨log, k, hc⟩ := ends_compileNew_push machine
    (show Settings.cacheSize {} < maxCapacity by decide) shadowingText hnone {}
  rw [compileResult_shadowing] at hc
  obtain ⟨-, hends, -, -, hsame⟩ :=
    compiled_chain writes_shadowing hnone hc hdepth hbody rfl rfl hrows
  obtain ⟨n, hn⟩ : ∃ n, bodyLevel 2 = n + 2 := ⟨bodyLevel 2 - 2, by decide⟩
  -- Both evaluations of the body end with a number.
  have hchain := (binds_stageScope (holds_chainFrames (e := shadowingBody) rfl rfl hrows) rfl {} .none
    log k 2).ends_difference n (x := "x") (y := "y") (a := 7) (b := 3) rfl rfl hdepth
      (by decide) (by decide)
  have hmerged := (binds_stageScope (holds_mergedFrames (e := shadowingBody) hrows rfl) rfl {} .none
    log k 2).ends_difference n (x := "x") (y := "y") (a := 7) (b := 3) rfl rfl hdepth
      (by decide) (by decide)
  rw [← hn] at hchain hmerged
  have hcall := hends.trans hchain
  exact ⟨_, _, _, hc, hcall, hsame isSettled_start hsettled [] (settled_of_has fun V => inferInstance)
    (not_exposes_of_ends (ends_callThen_of_ok hcall rfl) rfl)
    (not_exposes_of_ends (ends_callThen_of_ok hmerged rfl) rfl)⟩

/-! ### A scope that is shown -/

/-- Compiles a text and evaluates its body where one frame gives all parameters their values. -/
def evaluateMerged (text body : String) (names : List (List String)) (rows : List (List Value)) :
    Run Value := do
  let s ← get
  let _ ← compileNew machine {} text .none
  match Expr.read? (bodyText body) with
  | some e =>
    modify fun t => t.entered (mergedFrames names e rows)
    Run.deeper ((machineAt (bodyLevel names.length)).expr (stageScope s (names.length - 1)) e)
  | none => Run.leaveOpen

/-- The last stage of a chain lists its own parameters only, where one frame for all parameters has
those of all stages. -/
theorem last_stage_lists_own_names :
    (∃ t, (do
      let c ← compileNew machine {} "x->->len(dir())" .none
      callInTurn machine c [[.int 1], []]).ends {} = some (.ok (.int 0), t)) ∧
    ∃ t, (evaluateMerged "x->->len(dir())" "len(dir())" [["x"], []] [[.int 1], []]).ends {} =
      some (.ok (.int 1), t) :=
  ⟨Run.exists_ends_of_comesTo (by decide +kernel), Run.exists_ends_of_comesTo (by decide +kernel)⟩

end LambdaText
