import LambdaText.Proofs.Eval.Compiling
import LambdaText.Proofs.Eval.Frames
import LambdaText.Proofs.Source.Chains

/-!
# Calling the stages of a chain

A compiled chain is called with one row of arguments per parameter list. Every call but the last one
enters a frame and gives the function of the next stage; the last call evaluates the body where the
frames of all stages are around it.
-/

namespace LambdaText

open LambdaText.Code LambdaText.Source LambdaText.Text

/-! ### Functions of stages -/

def stagesAround : List (List String) → Expr → Expr
  | [], e => e
  | ps :: rest, e => .lambda (ps.map Parameter.plain) (stagesAround rest e)

theorem stageBody_eq (s : Source) (e : Expr) :
    stageBody s e = stagesAround s.parameterLists.tail e := by
  induction s with
  | last => rfl
  | stage _ _ _ inner ih =>
    rw [stageBody, ih, Source.parameterLists, List.tail_cons, parameterLists_eq inner]
    rfl

theorem defaultsUsage_plain (names : List String) :
    defaultsUsage (names.map Parameter.plain) = {} := by
  induction names with
  | nil => rfl
  | cons n names ih =>
    rw [List.map_cons, Parameter.plain, defaultsUsage, ih]
    rfl

def stageFunction (serial : Nat) (scope : Scope) (name : String) (names : List String)
    (body : Expr) : Value :=
  .function serial (lambdaRoutine (names.map Parameter.plain) body) scope name []

theorem map_name_plain (names : List String) :
    (names.map Parameter.plain).map Parameter.name = names := by
  rw [List.map_map]
  exact List.map_id names

theorem mem_locals_lambdaRoutine {names : List String} {body : Expr}
    (hbound : body.usage.bound = []) (n : String) :
    n ∈ (lambdaRoutine (names.map Parameter.plain) body).locals ↔ n ∈ names := by
  rw [lambdaRoutine, map_name_plain, hbound, List.append_nil, mem_firstOccurrences]

/-! ### What a scope binds -/

/-- A state that came from another one by entering frames and handing out serial numbers only. -/
def OnlyEntered (s t : State) : Prop :=
  ∃ frames serial, t = { s with frames := s.frames ++ frames, serial }

theorem OnlyEntered.refl (s : State) : OnlyEntered s s :=
  ⟨#[], s.serial, by rw [Array.append_empty]⟩

theorem OnlyEntered.trans {s t u : State} (hst : OnlyEntered s t) (htu : OnlyEntered t u) :
    OnlyEntered s u := by
  obtain ⟨frames, serial, rfl⟩ := hst
  obtain ⟨frames', serial', rfl⟩ := htu
  exact ⟨frames ++ frames', serial', by rw [Array.append_assoc]⟩

theorem OnlyEntered.depth {s t : State} (h : OnlyEntered s t) : t.depth = s.depth := by
  obtain ⟨frames, serial, rfl⟩ := h
  rfl

theorem onlyEntered_push (s : State) (f : Frame) :
    OnlyEntered s { s with frames := s.frames.push f } :=
  ⟨#[f], s.serial, by rw [Array.push_eq_append]⟩

/-- A scope whose frames hold these layers of names, the innermost one first, and whose global names
have these entries. -/
structure Scope.Binds (scope : Scope) (s : State) (layers : List (List (String × Value)))
    (entries : Array (Value × Value)) : Prop where
  frames : List.Forall₂ (Lists s.frames) scope.frames layers
  globals : s.cells[scope.globals]? = some (.dict entries)

/-- A name has the value of the innermost layer with this name, else its global value, else its
built-in one. -/
theorem Scope.Binds.ends_lookupName {scope : Scope} {s : State}
    {layers : List (List (String × Value))} {entries : Array (Value × Value)}
    (h : scope.Binds s layers entries) (n : String) :
    (lookupName scope n).ends s =
      match (layers.flatten.lookup n).or (entryValue? entries.toList n) with
      | some v => some (.ok v, s)
      | none => (lookupBuiltin entries n).ends s := by
  rw [lookupName, ends_lookupIn h.frames]
  cases layers.flatten.lookup n with
  | none => exact ends_lookupGlobal h.globals n
  | some v => rfl

/-! ### New frames -/

/-- The name of a function in so many others, one in the other, with a mark for what is local to it. -/
def localPath (name : String) : Nat → String
  | 0 => name ++ ".<locals>."
  | k + 1 => localPath (name ++ ".<locals>." ++ "<lambda>") k

/-- The scope of a function that is called inside of so many others, which a scope is around. -/
def Scope.inside (scope : Scope) (s : State) (name : String) (k : Nat) : Scope :=
  ⟨(List.range' s.frames.size (k + 1)).reverse ++ scope.frames, scope.globals, localPath name k⟩

/-- A state after frames have been entered; all calls but the last one have made a function. -/
def State.entered (s : State) (frames : List Frame) : State :=
  { s with frames := s.frames ++ frames.toArray, serial := s.serial + (frames.length - 1) }

theorem onlyEntered_entered (s : State) (frames : List Frame) : OnlyEntered s (s.entered frames) :=
  ⟨frames.toArray, _, rfl⟩

theorem inside_succ (scope : Scope) (s : State) (name : String) (k : Nat) {t : State}
    (ht : t.frames.size = s.frames.size + 1) :
    Scope.inside ⟨s.frames.size :: scope.frames, scope.globals, name ++ ".<locals>."⟩ t
      (name ++ ".<locals>." ++ "<lambda>") k = scope.inside s name (k + 1) := by
  rw [Scope.inside, Scope.inside, ht, List.range'_succ (n := k + 1), List.reverse_cons,
    List.append_assoc]
  rfl

theorem entered_cons (s : State) (f : Frame) {frames : List Frame} (hne : frames ≠ []) :
    ({ s with frames := s.frames.push f, serial := s.serial + 1 } : State).entered frames =
      s.entered (f :: frames) := by
  have hpos : 0 < frames.length := List.length_pos_iff.2 hne
  rw [State.entered, State.entered]
  congr 1
  · simp
  · simp only [List.length_cons]
    omega

/-- New frames that give names values are listed in order. -/
theorem lists_append {frames : List Frame} {layers : List (List (String × Value))}
    (h : List.Forall₂ Frame.Holds frames layers) (old : Array Frame) :
    List.Forall₂ (Lists (old ++ frames.toArray)) (List.range' old.size frames.length) layers := by
  induction h generalizing old with
  | nil => exact .nil
  | @cons f layer frames layers hf _ ih =>
    have hpush : old ++ (f :: frames).toArray = old.push f ++ frames.toArray := by simp
    refine .cons ⟨f, by simp, hf⟩ ?_
    rw [hpush, ← Array.size_push f]
    exact ih (old.push f)

/-- Frames bind their names in front of what is around them, the last one first. -/
theorem Scope.Binds.inside {scope : Scope} {s : State} {layers news : List (List (String × Value))}
    {entries : Array (Value × Value)} (h : scope.Binds s layers entries) {frames : List Frame}
    (hframes : List.Forall₂ Frame.Holds frames news) (name : String) {k : Nat}
    (hk : frames.length = k + 1) :
    (scope.inside s name k).Binds (s.entered frames) (news.reverse ++ layers) entries where
  frames := by
    refine List.rel_append (List.forall₂_reverse_iff.2 (hk ▸ lists_append hframes s.frames)) ?_
    refine h.frames.imp ?_
    rintro a layer ⟨f, hf, hlayer⟩
    have hlt := (Array.getElem?_eq_some_iff.1 hf).1
    exact ⟨f, by rw [State.entered, Array.getElem?_append_left hlt, hf], hlayer⟩
  globals := h.globals

/-! ### One call -/

theorem ends_evalDefaults_plain (m : Machine) (scope : Scope) (names : List String) (s : State) :
    (evalDefaults m scope (names.map Parameter.plain)).ends s = some (.ok [], s) := by
  induction names with
  | nil => rfl
  | cons n names ih => exact ih

def stageFrame (names : List String) (body : Expr) (positions : List Value) : Frame :=
  frameOf (lambdaRoutine (names.map Parameter.plain) body) (names.zip positions)

theorem holds_stageFrame {names : List String} {body : Expr} {positions : List Value}
    (hlength : names.length = positions.length) (hbound : body.usage.bound = []) :
    (stageFrame names body positions).Holds (names.zip positions) :=
  holds_frameOf hlength (mem_locals_lambdaRoutine hbound) rfl

/-- The function of a stage binds and yields nothing itself. -/
theorem usage_stagesAround (next : List String) (rest : List (List String)) (e : Expr) :
    (stagesAround (next :: rest) e).usage.bound = [] ∧
      (stagesAround (next :: rest) e).usage.yields = false := by
  rw [stagesAround, Expr.usage, defaultsUsage_plain]
  exact ⟨rfl, rfl⟩

theorem usage_stagesAround_of_body {e : Expr} (hbound : e.usage.bound = [])
    (hyields : e.usage.yields = false) (rest : List (List String)) :
    (stagesAround rest e).usage.bound = [] ∧ (stagesAround rest e).usage.yields = false := by
  cases rest with
  | nil => exact ⟨hbound, hyields⟩
  | cons next rest => exact usage_stagesAround next rest e

theorem ends_deeper_stage (n : Nat) (scope : Scope) (next : List String) (rest : List (List String))
    (e : Expr) {s : State} (hdepth : s.depth < Run.maxDepth) :
    (Run.deeper ((machineAt (n + 1)).expr scope (stagesAround (next :: rest) e))).ends s =
      some (.ok (stageFunction s.serial scope (scope.path ++ "<lambda>") next (stagesAround rest e)),
        { s with serial := s.serial + 1 }) := by
  have hmade (t : State) : ((machineAt (n + 1)).expr scope (stagesAround (next :: rest) e)).ends t =
      some (.ok (stageFunction t.serial scope (scope.path ++ "<lambda>") next (stagesAround rest e)),
        { t with serial := t.serial + 1 }) :=
    Run.ends_bind_of_ok (ends_evalDefaults_plain _ _ _ _) _
  rw [Run.ends_deeper hdepth, hmade]
  rfl

/-- A call of a stage that is not the last one gives the function of the next stage. -/
theorem ends_call_stage_push (n serial : Nat) (name : String) (scope : Scope) {names : List String}
    (next : List String) (rest : List (List String)) (e : Expr) {positions : List Value}
    {s : State} (hlength : names.length = positions.length) (hdepth : s.depth < Run.maxDepth) :
    ((machineAt (n + 2)).call
      (stageFunction serial scope name names (stagesAround (next :: rest) e)) positions []).ends s =
      some (.ok (stageFunction s.serial
          ⟨s.frames.size :: scope.frames, scope.globals, name ++ ".<locals>."⟩
          (name ++ ".<locals>." ++ "<lambda>") next (stagesAround rest e)),
        { s with
          frames := s.frames.push (stageFrame names (stagesAround (next :: rest) e) positions)
          serial := s.serial + 1 }) := by
  have hyields := (usage_stagesAround next rest e).2
  refine (ends_invoke_plain (machineAt (n + 1)) hlength _ hyields scope name s).trans ?_
  exact ends_deeper_stage n _ next rest e (by exact hdepth)

theorem ends_call_stage (n serial : Nat) (name : String) (scope : Scope) {names : List String}
    (next : List String) (rest : List (List String)) (e : Expr) {positions : List Value}
    {s : State} (hlength : names.length = positions.length) (hdepth : s.depth < Run.maxDepth) :
    ∃ serial' scope' name' t,
      ((machineAt (n + 2)).call
        (stageFunction serial scope name names (stagesAround (next :: rest) e))
        positions []).ends s =
        some (.ok (stageFunction serial' scope' name' next (stagesAround rest e)), t) ∧
      OnlyEntered s t :=
  ⟨_, _, _, _, ends_call_stage_push n serial name scope next rest e hlength hdepth,
    ⟨#[_], _, by rw [Array.push_eq_append]⟩⟩

/-! ### Calls in turn -/

/-- Calls a value with a row of arguments, what it gives with the next row, and so on. -/
def callInTurn (m : Machine) : Value → List (List Value) → Run Value
  | f, [] => pure f
  | f, positions :: rest => do callInTurn m (← m.call f positions []) rest

/-- The layers of names that rows of arguments give to parameter lists, the last row first. -/
def stageLayers (names : List (List String)) (rows : List (List Value)) :
    List (List (String × Value)) :=
  (List.zipWith List.zip names rows).reverse

/-- The function of the first of some stages, in a scope. -/
def IsStage (f : Value) (scope : Scope) (lists : List (List String)) (e : Expr) : Prop :=
  ∃ serial name ps rest, lists = ps :: rest ∧
    f = stageFunction serial scope name ps (stagesAround rest e)

theorem IsStage.isCallable {f : Value} {scope : Scope} {lists : List (List String)} {e : Expr}
    (h : IsStage f scope lists e) : f.isCallable = true := by
  obtain ⟨serial, name, ps, rest, -, rfl⟩ := h
  rfl

/-- Rows for all stages but some last ones give the function of the first of those. -/
theorem ends_callInTurn_stages {n : Nat} {e : Expr} {next : List String}
    {rest taken : List (List String)} {rows : List (List Value)}
    (hrows : List.Forall₂ (fun ps row => ps.length = row.length) taken rows) {f : Value}
    {scope : Scope} {s : State} (hf : IsStage f scope (taken ++ next :: rest) e)
    (hdepth : s.depth < Run.maxDepth) :
    ∃ g scope' t, (callInTurn (machineAt (n + 2)) f rows).ends s = some (.ok g, t) ∧
      IsStage g scope' (next :: rest) e ∧ OnlyEntered s t := by
  induction hrows generalizing f scope s with
  | nil => exact ⟨f, scope, s, rfl, hf, .refl s⟩
  | @cons ps row taken rows hlength _ ih =>
    obtain ⟨serial, name, ps', around, hlists, rfl⟩ := hf
    obtain ⟨qs, later, hlater⟩ : ∃ qs later, taken ++ next :: rest = qs :: later := by
      cases taken <;> exact ⟨_, _, rfl⟩
    rw [List.cons_append, hlater, List.cons.injEq] at hlists
    obtain ⟨rfl, rfl⟩ := hlists
    obtain ⟨serial', scope', name', t, hcall, ht⟩ :=
      ends_call_stage n serial name scope qs later e hlength hdepth
    obtain ⟨g, scope'', u, hcalls, hg, hu⟩ :=
      ih ⟨serial', name', qs, later, hlater, rfl⟩ (ht.depth ▸ hdepth)
    refine ⟨g, scope'', u, ?_, hg, ht.trans hu⟩
    rw [callInTurn, Run.ends_bind_of_ok hcall, hcalls]

theorem ends_callInTurn_append (m : Machine) (f : Value) (rows more : List (List Value))
    (s : State) :
    (callInTurn m f (rows ++ more)).ends s =
      (callInTurn m f rows >>= fun g => callInTurn m g more).ends s := by
  induction rows generalizing f s with
  | nil => rfl
  | cons row rows ih =>
    rw [List.cons_append, callInTurn, callInTurn, bind_assoc, Run.ends_bind, Run.ends_bind]
    cases (m.call f row []).ends s with
    | none => rfl
    | some result =>
      obtain ⟨result, t⟩ := result
      cases result with
      | error e => rfl
      | ok g => exact ih g t

theorem ends_callInTurn_one (m : Machine) (f : Value) (row : List Value) (s : State) :
    (callInTurn m f [row]).ends s = (m.call f row []).ends s := by
  rw [callInTurn, Run.ends_bind]
  cases (m.call f row []).ends s with
  | none => rfl
  | some result =>
    obtain ⟨result, t⟩ := result
    cases result <;> rfl

/-- The frames that calls of all stages enter, the outermost one first. -/
def chainFrames : List (List String) → Expr → List (List Value) → List Frame
  | ps :: rest, e, row :: rows => stageFrame ps (stagesAround rest e) row :: chainFrames rest e rows
  | _, _, _ => []

theorem length_chainFrames {names : List (List String)} {rows : List (List Value)}
    (h : List.Forall₂ (fun ps row => ps.length = row.length) names rows) (e : Expr) :
    (chainFrames names e rows).length = names.length := by
  induction h with
  | nil => rfl
  | cons _ _ ih => rw [chainFrames, List.length_cons, List.length_cons, ih]

/-- Every one of them gives the parameters of its stage their arguments. -/
theorem holds_chainFrames {e : Expr} (hbound : e.usage.bound = []) (hyields : e.usage.yields = false)
    {names : List (List String)} {rows : List (List Value)}
    (h : List.Forall₂ (fun ps row => ps.length = row.length) names rows) :
    List.Forall₂ Frame.Holds (chainFrames names e rows) (List.zipWith List.zip names rows) := by
  induction h with
  | nil => exact .nil
  | @cons _ _ rest _ hlength _ ih =>
    exact .cons (holds_stageFrame hlength (usage_stagesAround_of_body hbound hyields rest).1) ih

/-- Rows for all stages evaluate the body in the frames of all of them. -/
theorem ends_callInTurn_all {n : Nat} {e : Expr} (hyields : e.usage.yields = false)
    {ps : List String} {row : List Value} (hlength : ps.length = row.length)
    {rest : List (List String)} {rows : List (List Value)}
    (hrows : List.Forall₂ (fun ps row => ps.length = row.length) rest rows) (serial : Nat)
    (scope : Scope) (name : String) {s : State} (hdepth : s.depth < Run.maxDepth) :
    (callInTurn (machineAt (n + 2)) (stageFunction serial scope name ps (stagesAround rest e))
        (row :: rows)).ends s =
      (Run.deeper ((machineAt (n + 1)).expr (scope.inside s name rest.length) e)).ends
        (s.entered (chainFrames (ps :: rest) e (row :: rows))) := by
  induction hrows generalizing serial scope name ps row s with
  | nil =>
    rw [ends_callInTurn_one]
    refine (ends_invoke_plain (machineAt (n + 1)) hlength e hyields scope name s).trans ?_
    rw [Array.push_eq_append]
    rfl
  | @cons qs row' rest rows hlength' hrows ih =>
    rw [callInTurn, Run.ends_bind_of_ok (ends_call_stage_push n serial name scope qs rest e hlength
      hdepth), ih hlength' _ _ _ (by exact hdepth), inside_succ _ _ _ _ (Array.size_push _),
      entered_cons s _ (show chainFrames (qs :: rest) e (row' :: rows) ≠ [] from
        List.cons_ne_nil _ _)]
    rfl

/-! ### Compiled chains -/

/-- The level of the machine that evaluates the body of a chain: what is compiled takes one level,
and so does the call of a function. -/
def bodyLevel (stages : Nat) : Nat := topLevel - if stages = 1 then 2 else 1

theorem ends_callInTurn_compiled {n serial : Nat} {source : Source} {f : Value}
    (row : List Value) (rows : List (List Value)) (s : State) :
    (callInTurn (machineAt (n + 1)) (.compiled serial source f) (row :: rows)).ends s =
      ((machineAt n).call f row [] >>= fun g => callInTurn (machineAt (n + 1)) g rows).ends s :=
  rfl

/-- Rows for the first stages of a compiled chain give the function of the next one. -/
theorem ends_callInTurn_compiled_front {n serial : Nat} {source : Source} {f : Value}
    {scope : Scope} {e : Expr} {ps next : List String} {taken rest : List (List String)}
    {row : List Value} {rows : List (List Value)} {s : State} (hlength : ps.length = row.length)
    (hrows : List.Forall₂ (fun ps row => ps.length = row.length) taken rows)
    (hf : IsStage f scope (ps :: (taken ++ next :: rest)) e) (hdepth : s.depth < Run.maxDepth) :
    ∃ g scope' t, (callInTurn (machineAt (n + 3)) (.compiled serial source f) (row :: rows)).ends s =
        some (.ok g, t) ∧ IsStage g scope' (next :: rest) e ∧ OnlyEntered s t := by
  obtain ⟨serial', name, ps', around, hlists, rfl⟩ := hf
  obtain ⟨qs, later, hlater⟩ : ∃ qs later, taken ++ next :: rest = qs :: later := by
    cases taken <;> exact ⟨_, _, rfl⟩
  rw [hlater, List.cons.injEq] at hlists
  obtain ⟨rfl, rfl⟩ := hlists
  obtain ⟨id, scope', name', t, hcall, ht⟩ := ends_call_stage n serial' name scope qs later e
    hlength hdepth
  obtain ⟨g, scope'', u, hcalls, hg, hu⟩ := ends_callInTurn_stages (n := n + 1) (e := e) hrows
    ⟨id, name', qs, later, hlater, rfl⟩ (ht.depth ▸ hdepth)
  refine ⟨g, scope'', u, ?_, hg, ht.trans hu⟩
  rw [ends_callInTurn_compiled, Run.ends_bind_of_ok hcall, hcalls]

/-- Calls of a compiled chain before its last stage. -/
theorem ends_callInTurn_compiled_take {n serial : Nat} {source : Source} {f : Value}
    {scope : Scope} {e : Expr} {names : List (List String)} {rows : List (List Value)} {s : State}
    (hrows : List.Forall₂ (fun ps row => ps.length = row.length) names rows)
    (hf : IsStage f scope names e) (hdepth : s.depth < Run.maxDepth) {j : Nat}
    (hj : j < names.length) :
    ∃ g t, (callInTurn (machineAt (n + 3)) (.compiled serial source f) (rows.take j)).ends s =
        some (.ok g, t) ∧ g.isCallable = true ∧ OnlyEntered s t := by
  cases hrows with
  | nil => exact absurd hj (Nat.not_lt_zero j)
  | @cons ps row names rows hlength hrows =>
    cases j with
    | zero => exact ⟨_, s, rfl, rfl, .refl s⟩
    | succ j =>
      rw [List.length_cons, Nat.succ_lt_succ_iff] at hj
      have hsplit : names.take j ++ names[j] :: names.drop (j + 1) = names := by
        rw [← List.drop_eq_getElem_cons hj, List.take_append_drop]
      obtain ⟨g, scope', t, hcalls, hg, ht⟩ := ends_callInTurn_compiled_front hlength
        (List.forall₂_take j hrows) (hsplit.symm ▸ hf) hdepth
      exact ⟨g, t, by rw [List.take_succ_cons, hcalls], hg.isCallable, ht⟩

/-- All calls of a compiled chain evaluate its body in the frames of all stages. -/
theorem ends_callInTurn_compiled_all (id : Nat) (source : Source) {n : Nat} {e : Expr}
    (hyields : e.usage.yields = false) {ps : List String} {row : List Value}
    (hlength : ps.length = row.length) {rest : List (List String)} {rows : List (List Value)}
    (hrows : List.Forall₂ (fun ps row => ps.length = row.length) rest rows) (serial : Nat)
    (scope : Scope) (name : String) {s : State} (hdepth : s.depth < Run.maxDepth) :
    (callInTurn (machineAt (n + 3)) (.compiled id source
        (stageFunction serial scope name ps (stagesAround rest e))) (row :: rows)).ends s =
      (Run.deeper ((machineAt (n + 3 - if rest.length = 0 then 2 else 1)).expr
        (scope.inside s name rest.length) e)).ends
        (s.entered (chainFrames (ps :: rest) e (row :: rows))) := by
  rw [ends_callInTurn_compiled]
  cases hrows with
  | nil =>
    exact (ends_callInTurn_one (machineAt (n + 2)) _ row s).trans
      ((ends_callInTurn_one (machineAt (n + 2)) _ row s).symm.trans
        (ends_callInTurn_all (n := n) hyields hlength .nil serial scope name hdepth))
  | @cons qs row' rest rows hlength' hrows =>
    have hcall := ends_call_stage_push n serial name scope qs rest e hlength hdepth
    rw [Run.ends_bind_of_ok hcall, ends_callInTurn_all (n := n + 1) hyields hlength' hrows _ _ _
      (by exact hdepth), inside_succ _ _ _ _ (Array.size_push _),
      entered_cons s _ (show chainFrames (qs :: rest) e (row' :: rows) ≠ [] from
        List.cons_ne_nil _ _)]
    rfl

/-! ### A chain that shadows -/

/-- A text whose second parameter list repeats a name of the first one. -/
def shadowingText : String :=
  String.ofList ['x', ',', 'y', '-', '>', 'y', '-', '>', 'x', '-', 'y']

/-- What the text is read as. -/
def shadowingSource : Source :=
  .stage shadowingText .arrow ["x", "y"]
    (.last (String.ofList ['y', ' ', '-', '>', ' ', 'x', '-', 'y']) .arrow ["y"]
      (String.ofList ['x', '-', 'y']))

def shadowingBody : Expr := .binary .subtract (.name "x") (.name "y")

theorem writes_shadowing : Writes shadowingText [["x", "y"], ["y"]] ['x', '-', 'y'] where
  ne_nil := by simp
  lists := by
    rintro ps hps
    simp only [List.mem_cons, List.not_mem_nil, or_false] at hps
    rcases hps with rfl | rfl
    · exact ⟨by decide, by decide⟩
    · exact ⟨by decide, by decide⟩
  noArrow := by
    unfold NoArrow
    decide
  spelled := by
    have hname : ∀ n : String, Spells [n] n.toList := fun n => by
      rw [← List.append_nil n.toList, ← List.nil_append n.toList]
      exact .name (by simp) rfl (.done (by simp))
    refine ⟨[['x', ',', 'y'], ['y']], .cons ?_ (.cons (hname "y") .nil), rfl⟩
    have hrest : Spells ["y"] [',', 'y'] :=
      @Spells.name [','] [] "y" [] (List.all_eq_true.1 rfl) rfl (.done (by simp))
    exact @Spells.name [] [',', 'y'] "x" ["y"] (by simp) (by decide) hrest

theorem compileResult_shadowing (settings : Settings) : compileResult settings shadowingText =
    .ok (shadowingSource, ["x", "y"], .lambda [.plain "y"] shadowingBody) := by
  have hread : Source.read settings.operandName.toList settings.receiver.toList shadowingText =
      .ok shadowingSource := rfl
  have hresult : sourceResult shadowingSource =
      .ok (["x", "y"], .lambda [.plain "y"] shadowingBody) := rfl
  rw [compileResult, hread]
  simp only [hresult]
  rfl

/-- The difference of two names that have whole numbers as values. -/
theorem Scope.Binds.ends_difference {scope : Scope} {t : State}
    {layers : List (List (String × Value))} {entries : Array (Value × Value)}
    (h : scope.Binds t layers entries) (n : Nat) {x y : String} {a b : Int}
    (hx : (layers.flatten.lookup x).or (entryValue? entries.toList x) = some (.int a))
    (hy : (layers.flatten.lookup y).or (entryValue? entries.toList y) = some (.int b))
    (hdepth : t.depth < Run.maxDepth) (hx' : x ≠ lockedName) (hy' : y ≠ lockedName) :
    (Run.deeper ((machineAt (n + 2)).expr scope
      (.binary .subtract (.name x) (.name y)))).ends t = some (.ok (.int (a - b)), t) := by
  have hinner : scope.Binds { t with depth := t.depth + 1 } layers entries :=
    ⟨h.frames, h.globals⟩
  have hxs := hinner.ends_lookupName x
  have hys := hinner.ends_lookupName y
  rw [hx] at hxs
  rw [hy] at hys
  have hexpr : (machineAt (n + 2)).expr scope (.binary .subtract (.name x) (.name y)) =
      nameValue scope x >>= fun a => nameValue scope y >>= binaryOperation .subtract a := rfl
  rw [Run.ends_deeper hdepth, hexpr, nameValue_of_ne scope hx', nameValue_of_ne scope hy',
    Run.ends_bind_of_ok hxs, Run.ends_bind_of_ok hys]
  rfl

end LambdaText
