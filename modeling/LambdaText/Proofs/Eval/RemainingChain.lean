import LambdaText.Proofs.Eval.ParameterLists
import LambdaText.Proofs.Source.StageTexts

/-!
# What remains of a chain

Every stage of a chain keeps a text of its own, from which it is read and compiled as what it is in
the chain. So calling a compiled chain through its first stages, and compiling the text of the next
one, lead to functions with the same parameters and the same body.
-/

namespace LambdaText

open LambdaText.Code LambdaText.Source LambdaText.Text

namespace Source

theorem stages_subset {s stage : Source} (h : stage ∈ s.stages) : stage.stages ⊆ s.stages := by
  induction s with
  | last => cases List.mem_singleton.1 h; exact List.Subset.refl _
  | stage text form names inner ih =>
    rcases List.mem_cons.1 h with rfl | hinner
    · exact List.Subset.refl _
    · exact List.subset_cons_of_subset _ (ih hinner)

theorem finalBody_of_mem_stages {s stage : Source} (h : stage ∈ s.stages) :
    stage.finalBody = s.finalBody := by
  induction s with
  | last => cases List.mem_singleton.1 h; rfl
  | stage text form names inner ih =>
    rcases List.mem_cons.1 h with rfl | hinner
    · rfl
    · exact ih hinner

theorem parameterLists_of_stages {s stage : Source} {front later : List Source}
    (h : s.stages = front ++ stage :: later) :
    s.parameterLists = front.map parameters ++ stage.parameterLists := by
  induction s generalizing front with
  | last =>
    cases front with
    | nil => cases h; rfl
    | cons _ front => simp [stages] at h
  | stage text form names inner ih =>
    cases front with
    | nil => cases h; rfl
    | cons _ front =>
      obtain ⟨rfl, hinner⟩ := List.cons.inj h
      rw [parameterLists, ih hinner]
      rfl

end Source

theorem parseBody_of_read? {s : Source} {e : Expr}
    (hne : (trim s.finalBody.toList).isEmpty = false)
    (h : Expr.read? (bodyText s.finalBody) = some e) : parseBody s = .ok e := by
  rw [parseBody, hne, h]
  rfl

/-- A source that makes a function has distinct parameters in every stage, none of them locked, and
a body with which all sources make functions that end in it and have such parameters. -/
theorem sourceResult_same_body {s : Source} {f : List String × Expr} (h : sourceResult s = .ok f) :
    (∀ stage ∈ s.stages, stage.parameters.Nodup ∧ lockedName ∉ stage.parameters) ∧
    ∃ e, Expr.read? (bodyText s.finalBody) = some e ∧ f = (s.parameters, stageBody s e) ∧
      ∀ s' : Source, s'.finalBody = s.finalBody →
        (∀ stage ∈ s'.stages, stage.parameters.Nodup ∧ lockedName ∉ stage.parameters) →
        sourceResult s' = .ok (s'.parameters, stageBody s' e) := by
  obtain ⟨hnull, e, hbody, rfl, hsound⟩ := sourceResult_eq_ok h
  rw [isFunction_stageBody] at hsound
  have hread := read?_of_parseBody hbody
  refine ⟨hsound.1, e, hread, rfl, fun s' hfinal hparameters => ?_⟩
  have hne : (trim s.finalBody.toList).isEmpty = false := by
    by_contra hempty
    rw [parseBody, if_pos (by simpa using hempty)] at hbody
    cases hbody
  have hparse : parseBody s' = .ok e := parseBody_of_read? (hfinal ▸ hne) (hfinal ▸ hread)
  have hstands : isFunction s'.parameters (stageBody s' e) = true :=
    (isFunction_stageBody s' e).2 ⟨hparameters, hsound.2⟩
  rw [sourceResult, hfinal, hnull, (sourceFunction_eq_ok_iff hparse).2 hstands]
  rfl

/-- A chain that is compiled well has a body with which each of its stages is compiled from its own
text. -/
theorem compileResult_stages {settings : Settings} {text : String} {s : Source}
    {f : List String × Expr} (h : compileResult settings text = .ok (s, f)) :
    ∃ e, f = (s.parameters, stageBody s e) ∧ ∀ stage ∈ s.stages,
      compileResult settings stage.text = .ok (stage, stage.parameters, stageBody stage e) := by
  obtain ⟨hread, hresult⟩ := sourceResult_of_compileResult h
  obtain ⟨hparameters, e, -, rfl, hmakes⟩ := sourceResult_same_body hresult
  refine ⟨e, rfl, fun stage hstage => ?_⟩
  rw [compileResult_of_read (read_stage hread hstage), hmakes stage (finalBody_of_mem_stages hstage)
    fun later hlater => hparameters later (stages_subset hstage hlater)]
  rfl

theorem cacheSize_lt_of_ends_compileNew {m : Machine} {settings : Settings} {text : String}
    {given c : Value} {s t : State}
    (h : (compileNew m settings text given).ends s = some (.ok c, t)) :
    settings.cacheSize < maxCapacity := by
  by_contra hsize
  rw [compileNew, Run.ends_bind_of_error (ends_newCompiler_overflow (Nat.not_lt.1 hsize) s)] at h
  cases h

theorem isStage_compiledFunction (s : State) (source : Source) (e : Expr) :
    IsStage (compiledFunction s (source.parameters, stageBody source e)) ⟨[], s.cells.size, ""⟩
      source.parameterLists e :=
  ⟨s.serial, "<lambda>", source.parameters, source.parameterLists.tail, parameterLists_eq source, by
    rw [compiledFunction, stageBody_eq]
    rfl⟩

/-- What is read as a chain is read in the same way from the text of every stage. Once it is
compiled, rows of arguments for the first stages lead to the function of the next one, and the text
of that stage is compiled, with any namespace, as a function with the same parameters and the same
body for all stages that are left. -/
theorem stages_faithful {settings : Settings} {text : String} {s : Source}
    (h : read settings.operandName.toList settings.receiver.toList text = .ok s) :
    (∀ stage ∈ s.stages,
      read settings.operandName.toList settings.receiver.toList stage.text = .ok stage) ∧
    ∀ (given c : Value) (u v : State), IsNamespace given →
      (compileNew machine settings text given).ends u = some (.ok c, v) →
      u.depth < Run.maxDepth → ∃ e, ∀ (first : Source) (front : List Source) (stage : Source)
        (later : List Source) (rows : List (List Value)),
        s.stages = first :: front ++ stage :: later →
        List.Forall₂ (fun taken row => taken.parameters.length = row.length) (first :: front) rows →
        (∃ f scope t, (callInTurn machine c rows).ends v = some (.ok f, t) ∧
          IsStage f scope stage.parameterLists e) ∧
        ∀ (other : Value) (w : State), IsNamespace other →
          ∃ serial g scope t, (compileNew machine settings stage.text other).ends w =
              some (.ok (.compiled serial stage g), t) ∧
            IsStage g scope stage.parameterLists e := by
  refine ⟨fun stage hstage => read_stage h hstage, fun given c u v hgiven hc hdepth => ?_⟩
  have hsize := cacheSize_lt_of_ends_compileNew hc
  obtain ⟨source, f, log, compilers, hresult, rfl, rfl⟩ := compiled_of_ends_compileNew hgiven hc
  cases h.symm.trans (compileResult_eq_ok hresult).1
  obtain ⟨e, rfl, hstages⟩ := compileResult_stages hresult
  refine ⟨e, fun first front stage later rows hsplit hrows => ⟨?_, fun other w hother => ?_⟩⟩
  · obtain ⟨row, more, hlength, hmore, rfl⟩ := List.forall₂_cons_left_iff.1 hrows
    have hlists := parameterLists_of_stages hsplit
    rw [parameterLists_eq stage] at hlists ⊢
    have hf := isStage_compiledFunction u s e
    rw [hlists] at hf
    obtain ⟨n, hn⟩ : ∃ n, topLevel = n + 3 := ⟨topLevel - 3, by decide⟩
    have hafter : ({ compiledState u given with log, compilers } : State).depth < Run.maxDepth :=
      hdepth
    obtain ⟨f, scope, t, hcalls, hstage, -⟩ := ends_callInTurn_compiled_front hlength
      (List.forall₂_map_left_iff.2 hmore) hf hafter
    rw [machine, hn]
    exact ⟨f, scope, t, hcalls, hstage⟩
  · obtain ⟨log, compilers, hends⟩ := ends_compileNew machine hsize stage.text hother w
    rw [hstages stage (by simp [hsplit])] at hends
    exact ⟨_, _, _, _, hends, isStage_compiledFunction w stage e⟩

/-- A chain with uneven blanks and a stage without parameters. -/
def unevenText : String := String.ofList "  x-> ->y , z->x-y".toList

def unevenLast : Source :=
  .last (String.ofList "y , z -> x-y".toList) .arrow ["y", "z"] (String.ofList "x-y".toList)

def unevenSecond : Source :=
  .stage (String.ofList " -> y , z -> x-y".toList) .arrow [] unevenLast

/-- What the chain is read as. -/
def unevenSource : Source := .stage unevenText .arrow ["x"] unevenSecond

theorem read_uneven (settings : Settings) :
    Source.read settings.operandName.toList settings.receiver.toList unevenText =
      .ok unevenSource := rfl

theorem sourceResult_uneven : sourceResult unevenSource = .ok (["x"], .lambda []
    (.lambda [.plain "y", .plain "z"] (.binary .subtract (.name "x") (.name "y")))) := rfl

/-- The last stage is read from its own text, and compiled from it as what is left after two
calls. -/
theorem stages_faithful_uneven :
    Source.read (Settings.operandName {}).toList (Settings.receiver {}).toList unevenLast.text =
      .ok unevenLast ∧
    ∃ c v e f scope t, (compileNew machine {} unevenText .none).ends {} = some (.ok c, v) ∧
      (callInTurn machine c [[.int 7], []]).ends v = some (.ok f, t) ∧
      IsStage f scope [["y", "z"]] e ∧
      ∀ w, ∃ serial g inner t', (compileNew machine {} unevenLast.text .none).ends w =
          some (.ok (.compiled serial unevenLast g), t') ∧
        IsStage g inner [["y", "z"]] e := by
  obtain ⟨log, compilers, hc⟩ := ends_compileNew machine
    (show Settings.cacheSize {} < maxCapacity by decide) unevenText
    (show IsNamespace .none from trivial) {}
  rw [compileResult_of_read (read_uneven {}), sourceResult_uneven] at hc
  obtain ⟨hstages, hrest⟩ := stages_faithful (read_uneven {})
  obtain ⟨e, he⟩ := hrest .none _ {} _ trivial hc (by decide)
  obtain ⟨⟨f, scope, t, hcalls, hf⟩, hcompiled⟩ := he unevenSource [unevenSecond] unevenLast []
    [[.int 7], []] rfl (.cons rfl (.cons rfl .nil))
  exact ⟨hstages _ (.tail _ (.tail _ (.head _))), _, _, e, f, scope, t, hc, hcalls, hf,
    fun w => hcompiled .none w trivial⟩

end LambdaText
