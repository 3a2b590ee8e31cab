import LambdaText.Proofs.Eval.Chains
import LambdaText.Proofs.Eval.Composition
import LambdaText.Proofs.Eval.Keywords
import LambdaText.Proofs.Veiled.Twins

/-!
# Merging stages

Uncurrying the function of a chain calls its first stage with the first argument and the next stage
with the others. What is left of the chain then runs in two frames, where the function of the merged
text has one. Both give the names the same values; but functions that are made there have the
stages around them in their qualified names, so the merged text is compared behind an empty stage,
where it has two frames as well. Nothing is said of runs in which a scope is shown as such.
-/

namespace LambdaText

open LambdaText.Code LambdaText.Function LambdaText.Source LambdaText.Text

/-! ### Texts with the same body -/

def behindStage (text : String) : String := String.ofList ('-' :: '>' :: text.toList)

theorem writes_behindStage {text : String} {names : List (List String)} {body : List Char}
    (h : Writes text names body) : Writes (behindStage text) ([] :: names) body where
  ne_nil := List.cons_ne_nil _ _
  lists := List.forall_mem_cons.2 ⟨⟨List.nodup_nil, List.forall_mem_nil _⟩, h.lists⟩
  noArrow := h.noArrow
  spelled := by
    obtain ⟨segments, hspelled, htext⟩ := h.spelled
    refine ⟨[] :: segments, .cons (.done (List.forall_mem_nil _)) hspelled, ?_⟩
    rw [behindStage, String.toList_ofList, htext]
    rfl

/-- With a body that some text is compiled with, other lists of the same parameters are compiled as
well. -/
theorem compileResult_of_writes {settings : Settings} {text text' : String}
    {names names' : List (List String)} {body : List Char} {e : Expr} {source : Source}
    {f : List String × Expr} (h : Writes text names body) (h' : Writes text' names' body)
    (hnames : names'.flatten ⊆ names.flatten)
    (he : Expr.read? (bodyText (String.ofList body)) = some e)
    (hresult : compileResult settings text = .ok (source, f)) :
    ∃ source', source'.parameterLists = names' ∧
      compileResult settings text' = .ok (source', source'.parameters, stageBody source' e) := by
  obtain ⟨hread, hmade⟩ := sourceResult_of_compileResult hresult
  obtain ⟨t, ht, -, -, hlists, hfinal⟩ :=
    read_of_writes h settings.operandName.toList settings.receiver.toList
  cases hread.symm.trans ht
  obtain ⟨source', hread', -, -, hlists', hfinal'⟩ :=
    read_of_writes h' settings.operandName.toList settings.receiver.toList
  obtain ⟨hparameters, e', he', -, hmakes⟩ := sourceResult_same_body hmade
  rw [hfinal, bodyText_trimStart, he, Option.some.injEq] at he'
  subst he'
  refine ⟨source', hlists', ?_⟩
  have hsame : source'.finalBody = source.finalBody := hfinal'.trans hfinal.symm
  rw [compileResult_of_read hread', hmakes source' hsame fun stage hstage => ?_]
  · rfl
  have hstage : stage.parameters ∈ names' := by
    rw [← hlists', ← map_parameters_stages]
    exact List.mem_map_of_mem hstage
  refine ⟨(h'.lists _ hstage).nodup, fun hlocked => ?_⟩
  have hin := hnames (List.mem_flatten.2 ⟨_, hstage, hlocked⟩)
  rw [← hlists, ← map_parameters_stages] at hin
  obtain ⟨ps, hps, hname⟩ := List.mem_flatten.1 hin
  obtain ⟨other, hother, rfl⟩ := List.mem_map.1 hps
  exact (hparameters other hother).2 hname

/-! ### Calls -/

/-- An uncurried function calls in turn, one level down. -/
theorem ends_call_uncurried (n serial : Nat) (f : Value) (arguments : List Value) (s : State) :
    ((machineAt (n + 1)).call (.combined serial (.uncurry f)) arguments []).ends s =
      (callInTurn (machineAt n) f [arguments.take 1, arguments.drop 1]).ends s := by
  change (callCombined (machineAt n) (.uncurry f) arguments []).ends s = _
  rw [callCombined, shareCombined_positions rfl rfl, pure_bind]
  simp only [callUncurried, callPlain, callInTurn, bind_pure]

def RaisesTypeError {α : Type} (ended : Option (Except Value α × State)) : Prop :=
  ∃ message t, ended = some (.error (.error "TypeError" [.text message] none), t)

theorem Run.Refuses.raisesTypeError {α : Type} {r : Run α} (h : r.Refuses) (s : State) :
    RaisesTypeError (r.ends s) := by
  obtain ⟨message, hrefuses⟩ := h
  exact ⟨message, s, hrefuses s⟩

theorem refuses_call_stage (n serial : Nat) (scope : Scope) (name : String) {names : List String}
    (hnames : names.Nodup) {positions : List Value} (h : names.length ≠ positions.length)
    (body : Expr) :
    ((machineAt (n + 1)).call (stageFunction serial scope name names body) positions []).Refuses :=
  refuses_invoke (machineAt n) hnames (fun ⟨hle, hperm⟩ => by
    have hnone : names.drop positions.length = [] := List.nil_perm.1 hperm
    exact h (Nat.le_antisymm (List.drop_eq_nil_iff.1 hnone) hle)) body scope name

theorem raisesTypeError_second {n id serial globals : Nat} {source : Source}
    {first second : List String} {row row' : List Value} (hlength : first.length = row.length)
    (hsecond : second.Nodup) (hlength' : second.length ≠ row'.length) (rest : List (List String))
    (e : Expr) {s : State} (hdepth : s.depth < Run.maxDepth) :
    RaisesTypeError ((callInTurn (machineAt (n + 3)) (.compiled id source (stageFunction serial
      ⟨[], globals, ""⟩ "<lambda>" first (stagesAround (second :: rest) e)))
      [row, row']).ends s) := by
  have hcall := ends_call_stage_push n serial "<lambda>" ⟨[], globals, ""⟩ second rest e hlength
    hdepth
  rw [ends_callInTurn_compiled, Run.ends_bind_of_ok hcall, ends_callInTurn_one]
  exact (refuses_call_stage _ _ _ _ hsecond hlength' _).raisesTypeError _

/-- An uncurried chain refuses what its first two stages do. -/
theorem raisesTypeError_uncurried {n id serial globals : Nat} {source : Source} (p : String)
    {names : List String} (hnames : names.Nodup) {arguments : List Value}
    (hlength : arguments.length ≠ names.length + 1) (rest : List (List String)) (e : Expr)
    {s : State} (hdepth : s.depth < Run.maxDepth) :
    RaisesTypeError ((callInTurn (machineAt (n + 3)) (.compiled id source (stageFunction serial
      ⟨[], globals, ""⟩ "<lambda>" [p] (stagesAround (names :: rest) e)))
      [arguments.take 1, arguments.drop 1]).ends s) := by
  cases arguments with
  | nil =>
    have hnone : [p].length ≠ ([] : List Value).length := Nat.one_ne_zero
    obtain ⟨message, hrefuses⟩ := refuses_call_stage (n + 1) serial ⟨[], globals, ""⟩ "<lambda>"
      (List.nodup_singleton p) hnone (stagesAround (names :: rest) e)
    rw [ends_callInTurn_compiled]
    exact ⟨message, s, Run.ends_bind_of_error (hrefuses s) _⟩
  | cons a more =>
    exact raisesTypeError_second rfl hnames (fun h => hlength (by simp [h])) rest e hdepth

/-! ### Merged stages -/

/-- Whether a call ends as an expression does one level deeper, in a scope that gives every name the
value of a layer, or else of a namespace, or else of the built-in names. -/
def EvaluatesIn (n : Nat) (call : Run Value) (t : State) (e : Expr)
    (layer : List (String × Value)) (s : State) (given : Value) : Prop :=
  ∃ scope u, call.ends t = (Run.deeper ((machineAt n).expr scope e)).ends u ∧ OnlyEntered t u ∧
    scope.GivesNames u layer s given

/-- A parameter may be moved to the front of the next list, which does not have it. -/
theorem lookup_merged {p : String} {names : List String} {more : List Value}
    (hp : p ∉ names) (hlength : names.length = more.length) (a : Value) (name : String) :
    (names.zip more ++ [(p, a)]).lookup name = ((p, a) :: names.zip more).lookup name := by
  rw [List.lookup_append, List.lookup_cons]
  by_cases hname : name = p
  · subst hname
    simp [(lookup_zip_eq_none hlength).2 hp]
  · rw [beq_eq_false_iff_ne.2 hname]
    simp [List.lookup_cons, beq_eq_false_iff_ne.2 hname]

section Calls

variable {s t : State} {given : Value} {log log' : Array Log.Record} {k k' : Compiler}
  {n : Nat} {rest : List (List String)} {e : Expr}

theorem entered_pair (s : State) (outer inner : Frame) :
    s.entered [outer, inner] =
      { s with frames := (s.frames.push outer).push inner, serial := s.serial + 1 } := by
  rw [State.entered, Array.push_eq_append, Array.push_eq_append, Array.append_assoc]
  rfl

/-- Two calls of a compiled text run what its first two stages leave, in two frames. -/
theorem ends_callInTurn_two (s : State) (id : Nat) (source : Source) {first second : List String}
    {row row' : List Value} (hlength : first.length = row.length)
    (hlength' : second.length = row'.length)
    (hyields : (stagesAround rest e).usage.yields = false) (hdepth : t.depth < Run.maxDepth)
    (ht : t.frames.size = s.frames.size) :
    (callInTurn (machineAt (n + 3)) (chainFunction s id source first (second :: rest) e)
        [row, row']).ends t =
      (Run.deeper ((machineAt (n + 2)).expr (stageScope s 1) (stagesAround rest e))).ends
        (t.entered [stageFrame first (stagesAround (second :: rest) e) row,
          stageFrame second (stagesAround rest e) row']) :=
  have hrows : List.Forall₂ (fun (ps : List String) (row : List Value) => ps.length = row.length)
      [second] [row'] := .cons hlength' .nil
  ends_callInTurn_chain id source hlength hrows hyields hdepth ht

/-- A call of the uncurried function runs what is left of the chain where both stages have been
called. -/
theorem ends_call_uncurried_chain (s : State) (id fid : Nat) (source : Source) {p : String}
    {names : List String} {a : Value} {more : List Value} (hlength : names.length = more.length)
    (hyields : (stagesAround rest e).usage.yields = false)
    (hdepth : t.depth < Run.maxDepth) (ht : t.frames.size = s.frames.size) :
    ((machineAt (n + 4)).call (.combined fid (.uncurry
        (chainFunction s id source [p] (names :: rest) e))) (a :: more) []).ends t =
      (Run.deeper ((machineAt (n + 2)).expr (stageScope s 1) (stagesAround rest e))).ends
        (t.entered [stageFrame [p] (stagesAround (names :: rest) e) [a],
          stageFrame names (stagesAround rest e) more]) :=
  (ends_call_uncurried ..).trans (ends_callInTurn_two s id source rfl hlength hyields hdepth ht)

/-- A call of a compiled text runs what its first stage leaves, in one frame. -/
theorem ends_call_chain (s : State) (n id : Nat) (source : Source) {names : List String}
    {row : List Value} (hlength : names.length = row.length)
    (hyields : (stagesAround rest e).usage.yields = false) (t : State) :
    ((machineAt (n + 4)).call (chainFunction s id source names rest e) row []).ends t =
      (Run.deeper ((machineAt (n + 2)).expr ⟨[t.frames.size], s.cells.size, "<lambda>.<locals>."⟩
        (stagesAround rest e))).ends
        { t with frames := t.frames.push (stageFrame names (stagesAround rest e) row) } :=
  ends_invoke_plain (machineAt (n + 2)) hlength (stagesAround rest e) hyields ⟨[], s.cells.size, ""⟩
    "<lambda>" t

section Fitting

variable {id fid serial : Nat} {source : Source} {p : String} {names : List String} {a : Value}
  {more : List Value}
  (hlength : names.length = more.length) (hbound : (stagesAround rest e).usage.bound = [])
  (hyields : (stagesAround rest e).usage.yields = false)

include hlength hbound

/-- The frames of the first two stages. -/
theorem holds_splitFrames :
    List.Forall₂ Frame.Holds [stageFrame [p] (stagesAround (names :: rest) e) [a],
      stageFrame names (stagesAround rest e) more] [[(p, a)], names.zip more] :=
  .cons (holds_stageFrame rfl (usage_stagesAround names rest e).1)
    (.cons (holds_stageFrame hlength hbound) .nil)

include hyields

theorem evaluatesIn_merged :
    EvaluatesIn (n + 2) ((machineAt (n + 4)).call (chainFunction s id source (p :: names) rest e)
      (a :: more) []) (afterCompiling s given log k serial) (stagesAround rest e)
      ((p :: names).zip (a :: more)) s given := by
  have hmerged : (p :: names).length = (a :: more).length := congrArg Nat.succ hlength
  refine ⟨_, _, ends_call_chain s n id source hmerged hyields _, onlyEntered_push _ _, ?_⟩
  exact (binds_stageScope (k := 0) (.cons (holds_stageFrame hmerged hbound) .nil) rfl s given log k
    serial).givesNames fun name => by simp

variable (hdepth : s.depth < Run.maxDepth) (hp : p ∉ names)

include hdepth hp

theorem evaluatesIn_uncurried :
    EvaluatesIn (n + 2) ((machineAt (n + 4)).call (.combined fid (.uncurry
      (chainFunction s id source [p] (names :: rest) e))) (a :: more) [])
      (afterCompiling s given log k serial) (stagesAround rest e)
      ((p :: names).zip (a :: more)) s given := by
  refine ⟨_, _, ends_call_uncurried_chain s id fid source hlength hyields hdepth rfl,
    onlyEntered_entered _ _, ?_⟩
  refine (binds_stageScope (holds_splitFrames hlength hbound) rfl s given log k serial).givesNames
    fun name => ?_
  simpa using lookup_merged hp hlength a name

/-- In two other frames that give the names the same values, what is left has the same outcome. -/
theorem endsAlike_uncurried (hs : s.IsSettled) (ha : Settled s (a :: more))
    {calls : List StageCall} (hcalls : Settled s calls) {outer inner : Frame}
    {far near : List (String × Value)}
    (hlayers : List.Forall₂ Frame.Holds [outer, inner] [far, near])
    (hsame : ∀ name, (near ++ far).lookup name = ((p, a) :: names.zip more).lookup name) :
    (stageVeil s 1).EndsAlike s.world
      ((callThen machine ((machineAt (n + 4)).call (.combined fid (.uncurry
        (chainFunction s id source [p] (names :: rest) e))) (a :: more) []) calls).ends
        (afterCompiling s given log k serial).watched)
      ((callThen machine (Run.deeper ((machineAt (n + 2)).expr (stageScope s 1)
        (stagesAround rest e))) calls).ends
        ((afterCompiling s given log' k' serial).entered [outer, inner]).watched) := by
  have hcall := ends_call_uncurried_chain s id fid source (n := n) (p := p) (a := a)
    (t := (afterCompiling s given log k serial).watched) hlength hyields hdepth rfl
  have hrows : Settled s [[a], more] := fun V hcell hcompiler hV =>
    have harguments := List.forall_mem_cons.1 (ha V hcell hcompiler hV)
    List.forall_mem_cons.2 ⟨List.forall_mem_singleton.2 harguments.1,
      List.forall_mem_singleton.2 harguments.2⟩
  rw [ends_callThen_congr hcall]
  refine endsAlike_entered hs given log log' k k' serial
    (holds_splitFrames hlength hbound) hlayers rfl rfl
    (clear_chainFrames [[p], names] hrows (stagesAround rest e)) (fun name => ?_) (n + 2) _
    hcalls
  have hmerged := lookup_merged hp hlength a name
  simpa [hsame] using hmerged.symm

/-- The merged text behind an empty stage has the same outcome. -/
theorem endsAlike_behind (hs : s.IsSettled) (ha : Settled s (a :: more))
    {calls : List StageCall} (hcalls : Settled s calls) (id' : Nat) (source' : Source) :
    (stageVeil s 1).EndsAlike s.world
      ((callThen machine ((machineAt (n + 4)).call (.combined fid (.uncurry
        (chainFunction s id source [p] (names :: rest) e))) (a :: more) []) calls).ends
        (afterCompiling s given log k serial).watched)
      ((callThen machine (callInTurn (machineAt (n + 3))
        (chainFunction s id' source' [] ((p :: names) :: rest) e) [[], a :: more]) calls).ends
        (afterCompiling s given log' k' serial).watched) := by
  have hmerged : (p :: names).length = (a :: more).length := congrArg Nat.succ hlength
  have hnone : ([] : List String).length = ([] : List Value).length := rfl
  have hcall := ends_callInTurn_two s id' source' (n := n)
    (t := (afterCompiling s given log' k' serial).watched) hnone hmerged hyields hdepth rfl
  rw [ends_callThen_congr hcall]
  exact endsAlike_uncurried hlength hbound hyields hdepth hp hs ha hcalls
    (.cons (holds_stageFrame rfl (usage_stagesAround (p :: names) rest e).1)
      (.cons (holds_stageFrame hmerged hbound) .nil)) fun name => by simp

end Fitting

/-! ### Direct bodies -/

/-- What is known of the scope of the body if its outer frame has no names. -/
def directFacts (s : State) : Facts (stageVeil s 1) :=
  ⟨fun W => (stageFacts s 1).holds W ∧ W s.frames.size = some [],
    fun hW hc => ⟨(stageFacts s 1).mono hW hc.1, hW _ _ hc.2⟩⟩

/-- A direct body has the same outcome in the frame of the merged stages alone: the outer frame stays
without names whatever is evaluated. -/
theorem twins_direct [Fact (e.isDirect = true)] (s : State) (n : Nat) (path : String)
    {calls : List StageCall} :
    Run.Twins ((directFacts s).and calls)
      (callThen machine (Run.deeper ((machineAt n).expr (stageScope s 1) e)) calls)
      (callThen machine
        (Run.deeper ((machineAt n).expr ⟨[s.frames.size + 1], s.cells.size, path⟩ e)) calls) := by
  have : SeeAlike (directFacts s) (stageScope s 1) ⟨[s.frames.size + 1], s.cells.size, path⟩ :=
    ⟨fun names hc => covers_stageScope hc.1 names, fun n _ hc =>
      (ends_lookupIn_without_names hc.2 s.cells.size n true [s.frames.size + 1]).symm⟩
  unfold callThen
  infer_instance

/-- The merged text has the same outcome, if what is left is direct. -/
theorem endsAlike_direct [Fact ((stagesAround rest e).isDirect = true)] {id fid serial : Nat}
    {source : Source} {p : String} {names : List String} {a : Value} {more : List Value}
    (hlength : names.length = more.length)
    (hbound : (stagesAround rest e).usage.bound = [])
    (hyields : (stagesAround rest e).usage.yields = false) (hdepth : s.depth < Run.maxDepth)
    (hp : p ∉ names) (hs : s.IsSettled) (ha : Settled s (a :: more)) {calls : List StageCall}
    (hcalls : Settled s calls) (id' : Nat) (source' : Source) :
    (stageVeil s 1).EndsAlike s.world
      ((callThen machine ((machineAt (n + 4)).call (.combined fid (.uncurry
        (chainFunction s id source [p] (names :: rest) e))) (a :: more) []) calls).ends
        (afterCompiling s given log k serial).watched)
      ((callThen machine ((machineAt (n + 4)).call
        (chainFunction s id' source' (p :: names) rest e) (a :: more) []) calls).ends
        { (afterCompiling s given log' k' (serial + 1)).watched with
          frames := s.frames.push emptyFrame }) := by
  have hmerged : (p :: names).length = (a :: more).length := congrArg Nat.succ hlength
  let inner := stageFrame (p :: names) (stagesAround rest e) (a :: more)
  have hlayers : List.Forall₂ Frame.Holds [emptyFrame, inner] [[], (p :: names).zip (a :: more)] :=
    .cons holds_emptyFrame (.cons (holds_stageFrame hmerged hbound) .nil)
  have hclear : Valued.clear (stageVeil s 1) s.world [emptyFrame, inner] := by
    have hempty : Has (default : Facts (stageVeil s 1)) emptyFrame := by
      unfold emptyFrame
      infer_instance
    exact List.forall_mem_cons.2
      ⟨hempty.clear trivial, List.forall_mem_singleton.2 (clear_stageFrame ha _ _)⟩
  have halike := alike_entered hs given log' log' k' k' serial hlayers hlayers rfl rfl hclear
    fun _ => rfl
  have hwatched := halike.map (g := State.watched) (fun _ _ _ _ _ => rfl)
    (halike.shows.keep rfl rfl rfl halike.shows.handled)
  have hnameless : ((afterCompiling s given log' k' serial).entered [emptyFrame, inner]).world
      s.frames.size = some [] := by
    have hframe : (s.frames ++ [emptyFrame, inner].toArray)[s.frames.size]? = some emptyFrame := by
      rw [Array.getElem?_append_right (Nat.le_refl _), Nat.sub_self]
      rfl
    rw [State.world]
    exact congrArg (Option.bind · Frame.known?) hframe
  have hfacts : ((directFacts s).and calls).holds
      ((afterCompiling s given log' k' serial).entered [emptyFrame, inner]).watched.world :=
    ⟨⟨holds_stageFacts given log' k' serial hlayers rfl, hnameless⟩,
      Valued.mono (world_append s _) hcalls.clear⟩
  have hcall := ends_call_chain s n id' source' hmerged hyields
    { (afterCompiling s given log' k' (serial + 1)).watched with frames := s.frames.push emptyFrame }
  have hentered := entered_pair (afterCompiling s given log' k' serial).watched emptyFrame inner
  rw [Array.size_push] at hcall
  rw [ends_callThen_congr hcall]
  -- The scope of two stages is compared with the one of the merged stages in the same frames.
  have hmid : (stageVeil s 1).EndsAlike s.world
      ((callThen machine ((machineAt (n + 4)).call (.combined fid (.uncurry
        (chainFunction s id source [p] (names :: rest) e))) (a :: more) []) calls).ends
        (afterCompiling s given log k serial).watched)
      ((callThen machine (Run.deeper ((machineAt (n + 2)).expr (stageScope s 1)
        (stagesAround rest e))) calls).ends
        ((afterCompiling s given log' k' serial).entered [emptyFrame, inner]).watched) :=
    endsAlike_uncurried hlength hbound hyields hdepth hp hs ha hcalls hlayers fun name => by simp
  have halone := (twins_direct s (n + 2) "<lambda>.<locals>.").endsAlike hwatched hfacts hmid
  exact hentered ▸ halone

end Calls

/-- Uncurrying merges the first two stages of a chain, where the first one has one parameter and the
second one does not have it. With another number of arguments than both have parameters, the
uncurried function and the merged text refuse the call with a type error. With as many, both
evaluate what is left of the chain at the same depth, where every name has the same value. Unless a
scope is shown as such, the outcome is the one of the merged text behind an empty stage, with all
calls that follow: there, functions that are made have the same qualified names. If what is left is a
direct body, which makes no functions, it is the one of the merged text itself, after one more serial
number and frame. -/
theorem uncurried_stages_merge {settings : Settings} {chained merged : String} {p : String}
    {names : List String} {rest : List (List String)} {body : List Char} {given c : Value}
    {s s₁ : State} {e : Expr} (hs : s.IsSettled) (hgiven : IsNamespace given)
    (hdepth : s.depth < Run.maxDepth) (hchained : Writes chained ([p] :: names :: rest) body)
    (hmerged : Writes merged ((p :: names) :: rest) body)
    (hc : (compileNew machine settings chained given).ends s = some (.ok c, s₁))
    (he : Expr.read? (bodyText (String.ofList body)) = some e) (hbound : e.usage.bound = [])
    (hyields : e.usage.yields = false) :
    ∃ u d b s₂ s₃,
      (Operation.uncurry.run machine [c] []).ends s₁ =
        some (.ok u, { s₁ with serial := s₁.serial + 1 }) ∧
      (compileNew machine settings merged given).ends s = some (.ok d, s₂) ∧
      (compileNew machine settings (behindStage merged) given).ends s = some (.ok b, s₃) ∧
      ∀ (level serial : Nat) (arguments : List Value),
        (arguments.length ≠ names.length + 1 →
          RaisesTypeError (((machineAt (level + 4)).call u arguments []).ends { s₁ with serial }) ∧
          RaisesTypeError (((machineAt (level + 4)).call d arguments []).ends { s₂ with serial }) ∧
          RaisesTypeError
            ((callInTurn (machineAt (level + 3)) b [[], arguments]).ends { s₃ with serial })) ∧
        (arguments.length = names.length + 1 →
          EvaluatesIn (level + 2) ((machineAt (level + 4)).call u arguments []) { s₁ with serial }
            (stagesAround rest e) ((p :: names).zip arguments) s given ∧
          EvaluatesIn (level + 2) ((machineAt (level + 4)).call d arguments []) { s₂ with serial }
            (stagesAround rest e) ((p :: names).zip arguments) s given ∧
          ∀ calls : List StageCall, Settled s arguments → Settled s calls →
            SameUnlessShown s 1
              ((callThen machine ((machineAt (level + 4)).call u arguments []) calls).ends
                { s₁.watched with serial })
              ((callThen machine (callInTurn (machineAt (level + 3)) b [[], arguments])
                calls).ends { s₃.watched with serial }) ∧
            (rest = [] → e.isDirect = true → SameUnlessShown s 1
              ((callThen machine ((machineAt (level + 4)).call u arguments []) calls).ends
                { s₁.watched with serial })
              ((callThen machine ((machineAt (level + 4)).call d arguments []) calls).ends
                { s₂.watched with
                  serial := serial + 1, frames := s₂.frames.push emptyFrame }))) := by
  have hsize := cacheSize_lt_of_ends_compileNew hc
  obtain ⟨source, f, -, -, hresult, rfl, -⟩ := compiled_of_ends_compileNew hgiven hc
  obtain ⟨source₁, hlists₁, hresult₁⟩ :=
    compileResult_of_writes hchained hchained (List.Subset.refl _) he hresult
  obtain ⟨source₂, hlists₂, hresult₂⟩ :=
    compileResult_of_writes hchained hmerged (by simp) he hresult
  obtain ⟨source₃, hlists₃, hresult₃⟩ :=
    compileResult_of_writes hchained (writes_behindStage hmerged) (by simp) he hresult
  cases hresult.symm.trans hresult₁
  -- All three texts are compiled in one state, so their global names are in one cell.
  obtain ⟨log₁, k₁, hends₁⟩ := ends_compileNew_push machine hsize chained hgiven s
  obtain ⟨log₂, k₂, hends₂⟩ := ends_compileNew_push machine hsize merged hgiven s
  obtain ⟨log₃, k₃, hends₃⟩ := ends_compileNew_push machine hsize (behindStage merged) hgiven s
  rw [hresult₁] at hends₁
  rw [hresult₂] at hends₂
  rw [hresult₃] at hends₃
  cases hc.symm.trans hends₁
  refine ⟨_, _, _, _, _, rfl, hends₂, hends₃, fun level serial arguments => ⟨?_, ?_⟩⟩
  · intro hlength
    rw [compiledFunction_eq s hlists₁, compiledFunction_eq s hlists₂, compiledFunction_eq s hlists₃]
    have hnodup := (hmerged.lists _ List.mem_cons_self).nodup
    refine ⟨?_, ?_, ?_⟩
    · rw [ends_call_uncurried]
      exact raisesTypeError_uncurried p (List.nodup_cons.1 hnodup).2 hlength rest e hdepth
    · have hrefuses := refuses_call_stage (level + 2) s.serial ⟨[], s.cells.size, ""⟩ "<lambda>"
        hnodup (Ne.symm hlength) (stagesAround rest e)
      exact hrefuses.raisesTypeError _
    · exact raisesTypeError_second rfl hnodup (Ne.symm hlength) rest e hdepth
  · intro hlength
    obtain ⟨a, more, rfl⟩ := List.exists_cons_of_length_eq_add_one hlength
    have hmore : names.length = more.length := (Nat.succ.inj hlength).symm
    have hp : p ∉ names := (List.nodup_cons.1 (hmerged.lists _ List.mem_cons_self).nodup).1
    obtain ⟨hbound, hyields⟩ := usage_stagesAround_of_body hbound hyields rest
    rw [compiledFunction_eq s hlists₁, compiledFunction_eq s hlists₂, compiledFunction_eq s hlists₃]
    refine ⟨evaluatesIn_uncurried hmore hbound hyields hdepth hp,
      evaluatesIn_merged hmore hbound hyields, fun calls harguments hcalls =>
        ⟨.of_endsAlike (endsAlike_behind hmore hbound hyields hdepth hp hs harguments hcalls _ _), ?_⟩⟩
    rintro rfl hdirect
    have hdirect : Fact ((stagesAround [] e).isDirect = true) := ⟨hdirect⟩
    exact .of_endsAlike (endsAlike_direct hmore hbound hyields hdepth hp hs harguments hcalls _ _)

/-- A chain of three stages, of which the first two may be merged. -/
def unmergedText : String :=
  String.ofList ['x', '-', '>', 'y', '-', '>', 'y', '-', '>', 'x', '-', 'y']

theorem writes_unmerged : Writes unmergedText [["x"], ["y"], ["y"]] ['x', '-', 'y'] where
  ne_nil := by simp
  lists := by
    rintro ps hps
    simp only [List.mem_cons, List.not_mem_nil, or_false, or_self] at hps
    rcases hps with rfl | rfl
    · exact ⟨by decide, by decide⟩
    · exact ⟨by decide, by decide⟩
  noArrow := writes_shadowing.noArrow
  spelled := by
    have hname : ∀ n : String, Spells [n] n.toList := fun n => by
      rw [← List.append_nil n.toList, ← List.nil_append n.toList]
      exact .name (by simp) rfl (.done (by simp))
    exact ⟨[['x'], ['y'], ['y']],
      .cons (hname "x") (.cons (hname "y") (.cons (hname "y") .nil)), rfl⟩

/-- The last stage of the text comes to a number where the merged stages have been called. -/
theorem not_exposes_unmerged {first : Run Value} {t : State} {log : Array Log.Record} {k : Compiler}
    {n : Nat} {frames : List Frame} {layers : List (List (String × Value))}
    (hlayers : List.Forall₂ Frame.Holds frames layers) (hlength : frames.length = 2)
    (hx : layers.reverse.flatten.lookup "x" = some (.int 7))
    (hfirst : first.ends t = (Run.deeper ((machineAt (n + 1)).expr (stageScope {} 1)
      (stagesAround [["y"]] shadowingBody))).ends
        ((afterCompiling {} .none log k 3).entered frames).watched) :
    ¬ Exposes ((callThen machine first [⟨0, [.inl (.int 3)], []⟩]).ends t) := by
  have hdepth : (0 : Nat) < Run.maxDepth := by decide
  have hone : ["y"].length = [Value.int 3].length := rfl
  have hyields : shadowingBody.usage.yields = false := rfl
  obtain ⟨m, hm⟩ : ∃ m, topLevel = m + 3 := ⟨topLevel - 3, by decide⟩
  let entered : State := (afterCompiling {} .none log k 3).entered frames
  let made : State := { entered.watched with serial := entered.serial + 1 }
  have hmade := hfirst.trans (ends_deeper_stage n (stageScope {} 1) ["y"] [] shadowingBody
    (s := entered.watched) hdepth)
  have hscope := binds_stageScope hlayers hlength {} .none log k 3
  have hframe : (stageFrame ["y"] shadowingBody [.int 3]).Holds [("y", .int 3)] :=
    holds_stageFrame hone rfl
  have hbinds := Scope.Binds.inside (s := made) ⟨hscope.frames, hscope.globals⟩ (.cons hframe .nil)
    ((stageScope {} 1).path ++ "<lambda>") (k := 0) rfl
  have hnumber := hbinds.ends_difference m (x := "x") (y := "y") (a := 7) (b := 3)
    (by simp [List.lookup_cons, hx]) rfl hdepth (by decide) (by decide)
  have hcall := (ends_callInTurn_all (n := m + 1) hyields hone .nil entered.serial (stageScope {} 1)
    ((stageScope {} 1).path ++ "<lambda>") (s := made) hdepth).trans hnumber
  rw [ends_callInTurn_one] at hcall
  have hmachine : machineAt (m + 1 + 2) = machine := by rw [machine, hm]
  have hstages := ends_callThen_of_ok hmade (ends_callStages_one (hmachine ▸ hcall))
  exact not_exposes_of_ends hstages rfl

/-- The last stage of the merged text is called after the merged stages. -/
theorem uncurried_stages_merge_shadowing :
    ∃ c u b s₁ s₂,
      (compileNew machine {} unmergedText .none).ends {} = some (.ok c, s₁) ∧
      (Operation.uncurry.run machine [c] []).ends s₁ =
        some (.ok u, { s₁ with serial := s₁.serial + 1 }) ∧
      (compileNew machine {} (behindStage shadowingText) .none).ends {} = some (.ok b, s₂) ∧
      SameStagedOutcome {} 1
        ((callThen machine (machine.call u [.int 7, .int 2] []) [⟨0, [.inl (.int 3)], []⟩]).ends
          { s₁.watched with serial := 3 })
        ((callThen machine (callInTurn (machineAt (topLevel - 1)) b [[], [.int 7, .int 2]])
          [⟨0, [.inl (.int 3)], []⟩]).ends { s₂.watched with serial := 3 }) := by
  have hnone : IsNamespace .none := trivial
  have hdepth : (0 : Nat) < Run.maxDepth := by decide
  have hbody : Expr.read? (bodyText (String.ofList ['x', '-', 'y'])) = some shadowingBody := rfl
  obtain ⟨source, -, hresult⟩ := compileResult_of_writes writes_shadowing writes_unmerged (by simp)
    hbody (compileResult_shadowing {})
  obtain ⟨c, s₁, hc⟩ : ∃ c s₁,
      (compileNew machine {} unmergedText .none).ends {} = some (.ok c, s₁) := by
    obtain ⟨log, k, hc⟩ := ends_compileNew_push machine
      (show Settings.cacheSize {} < maxCapacity by decide) unmergedText hnone {}
    rw [hresult] at hc
    exact ⟨_, _, hc⟩
  obtain ⟨id, source, log, k, serial, rfl, rfl⟩ :=
    chainFunction_of_compileNew writes_unmerged hnone hc hbody
  obtain ⟨u, d, b, s₂, s₃, hu, -, hb, hcalls⟩ := uncurried_stages_merge isSettled_start hnone hdepth
    writes_unmerged writes_shadowing hc (e := shadowingBody) rfl rfl rfl
  obtain ⟨id', source', log', k', serial', rfl, rfl⟩ :=
    chainFunction_of_compileNew (writes_behindStage writes_shadowing) hnone hb hbody
  have hcombined : u = .combined serial (.uncurry
      (chainFunction {} id source ["x"] [["y"], ["y"]] shadowingBody)) := by
    cases hu
    rfl
  obtain ⟨n, hn⟩ : ∃ n, topLevel = n + 4 := ⟨topLevel - 4, by decide⟩
  have hmachine : machineAt (n + 4) = machine := by rw [machine, hn]
  have hbelow : topLevel - 1 = n + 3 := by omega
  have harguments (V : Veil) : Has (default : Facts V) [Value.int 7, Value.int 2] := inferInstance
  have hthree (V : Veil) : Has (default : Facts V) [(.inl (.int 3) : Value ⊕ Nat)] := inferInstance
  have hcall (V : Veil) : Has (default : Facts V) [StageCall.mk 0 [.inl (.int 3)] []] :=
    ⟨fun hc => List.forall_mem_singleton.2
      ⟨(hthree V).clear hc, (has_nil (c := (default : Facts V))).clear hc⟩⟩
  obtain ⟨-, -, hsame⟩ := (hcalls n 3 [.int 7, .int 2]).2 rfl
  rw [hmachine] at hsame
  refine ⟨_, u, _, _, _, hc, hu, hb, ?_⟩
  rw [hbelow]
  have hone : ["y"].length = [Value.int 2].length := rfl
  have htwo : ["x", "y"].length = [Value.int 7, .int 2].length := rfl
  have hbound : (stagesAround [["y"]] shadowingBody).usage.bound = [] := rfl
  have hyields : (stagesAround [["y"]] shadowingBody).usage.yields = false := rfl
  refine (hsame _ (settled_of_has harguments) (settled_of_has hcall)).1 ?_ ?_
  · subst hcombined
    have hends := ends_call_uncurried_chain {} id serial source (n := n) (p := "x") (a := .int 7)
      (t := (afterCompiling {} .none log k 3).watched) hone hyields hdepth rfl
    rw [hmachine] at hends
    exact not_exposes_unmerged (n := n + 1) (holds_splitFrames hone hbound) rfl rfl hends
  · have hnil : ([] : List String).length = ([] : List Value).length := rfl
    have hends := ends_callInTurn_two {} id' source' (n := n)
      (t := (afterCompiling {} .none log' k' 3).watched) hnil htwo hyields hdepth rfl
    exact not_exposes_unmerged (n := n + 1) (.cons (holds_stageFrame rfl rfl)
      (.cons (holds_stageFrame htwo hbound) .nil)) rfl rfl hends

/-! ### Names that are shown -/

def callUncurriedText (text : String) (row : List Value) : Run Value := do
  let c ← compileNew machine {} text .none
  let u ← Operation.uncurry.run machine [c] []
  machine.call u row []

/-- The merged text itself may come to another value, because a function that is made by what is left
of the chain is named after all stages around it. Even behind an empty stage it may, where a scope is
shown. -/
theorem uncurried_stages_shown :
    (∃ t, (callUncurriedText "p->q->(lambda:1).__qualname__" [.int 1, .int 2]).ends {} =
      some (.ok (.text "<lambda>.<locals>.<lambda>.<locals>.<lambda>"), t)) ∧
    (∃ t, (callCompiled "p,q->(lambda:1).__qualname__" .none [.int 1, .int 2]).ends {} =
      some (.ok (.text "<lambda>.<locals>.<lambda>"), t)) ∧
    (∃ t, (callUncurriedText "p->->len(dir())" [.int 1]).ends {} = some (.ok (.int 0), t)) ∧
    (∃ t, (callCompiled "p->len(dir())" .none [.int 1]).ends {} = some (.ok (.int 1), t)) ∧
    ∃ t, (do
      let c ← compileNew machine {} (behindStage "p->len(dir())") .none
      callInTurn machine c [[], [.int 1]]).ends {} = some (.ok (.int 1), t) :=
  ⟨Run.exists_ends_of_comesTo (by decide +kernel), Run.exists_ends_of_comesTo (by decide +kernel),
    Run.exists_ends_of_comesTo (by decide +kernel), Run.exists_ends_of_comesTo (by decide +kernel),
    Run.exists_ends_of_comesTo (by decide +kernel)⟩

end LambdaText
