import LambdaText.Proofs.Eval.Namespaces

/-!
# Frames that share names out

The frames of all stages of a chain are around its body. Which of them lists a name does not matter,
as long as together they give all names the same values: what is evaluated there has the same
outcome, and so have all calls that follow, unless a scope is shown as such.
-/

namespace LambdaText

open LambdaText.Code LambdaText.Function LambdaText.Source

/-! ### What is hidden -/

section Veil

variable {s : State} {k : Nat}

/-- What is hidden when the first stage of a compiled text is called, and so many after it: the cell
of the global names, the compiler, and which of the frames of the stages lists a parameter. -/
def stageVeil (s : State) (k : Nat) : Veil where
  cell := s.cells.size
  compiler := s.compilers.size
  row := (List.range' s.frames.size (k + 1)).reverse
  nodup := List.nodup_reverse.2 List.nodup_range'
  agreed _ := True
  builtins := trivial

theorem hides_stageVeil {a : Nat} :
    (stageVeil s k).Hides a ↔ s.frames.size ≤ a ∧ a ≤ s.frames.size + k := by
  rw [Veil.Hides, stageVeil, List.mem_reverse, List.mem_range'_1]
  omega

theorem Settled.clear {α : Type} [Valued α] {a : α} (h : Settled s a) :
    Valued.clear (stageVeil s k) s.world a :=
  h _ rfl rfl fun _ hn => (hides_stageVeil.1 hn).1

/-- A state after a text has been compiled in another one, with a serial number to go on with. -/
def afterCompiling (s : State) (given : Value) (log : Array Log.Record) (c : Compiler)
    (serial : Nat) : State :=
  { compiledState s given with log, compilers := s.compilers.push c, serial }

theorem world_append (s : State) (frames : Array Frame) :
    s.world.Within ({ s with frames := s.frames ++ frames } : State).world := by
  intro a names ha
  obtain ⟨f, hf, hnames⟩ := Option.bind_eq_some_iff.1 ha
  have hlt := (Array.getElem?_eq_some_iff.1 hf).1
  rw [State.world, Array.getElem?_append_left hlt, hf]
  exact hnames

/-- It is known what a frame lists that gives names values. -/
theorem Lists.isSome_world {a : Nat} {layer : List (String × Value)} (h : Lists s.frames a layer) :
    (s.world a).isSome := by
  obtain ⟨f, hf, hlayer⟩ := h
  rw [State.world, hf, Option.bind_some, Frame.known?, hlayer.globals]
  rfl

theorem clear_stageFrame {row : List Value} (h : Settled s row) (names : List String) (body : Expr) :
    Valued.clear (stageVeil s k) s.world (stageFrame names body row) := by
  have hframe : Has ((default : Facts (stageVeil s k)).and row) (stageFrame names body row) := by
    unfold stageFrame
    infer_instance
  exact hframe.clear ⟨trivial, h.clear⟩

/-- Frames of stages that are called with what leads nowhere new. -/
theorem clear_chainFrames (names : List (List String)) {rows : List (List Value)}
    (h : Settled s rows) (e : Expr) :
    Valued.clear (stageVeil s k) s.world (chainFrames names e rows) := by
  induction names generalizing rows with
  | nil =>
    intro f hf
    cases hf
  | cons ps rest ih =>
    cases rows with
    | nil =>
      intro f hf
      cases hf
    | cons row rows =>
      have hrow : Settled s row := fun V hcell hcompiler hV =>
        h V hcell hcompiler hV row List.mem_cons_self
      have hrows : Settled s rows := fun V hcell hcompiler hV row hmem =>
        h V hcell hcompiler hV row (List.mem_cons_of_mem _ hmem)
      exact List.forall_mem_cons.2 ⟨clear_stageFrame hrow _ _, ih hrows⟩

/-- After texts have been compiled in one state, other frames that give all names the same values
make no difference. -/
theorem alike_entered (hs : s.IsSettled) (given : Value) (log log' : Array Log.Record)
    (c c' : Compiler) (serial : Nat) {frames frames' : List Frame}
    {layers layers' : List (List (String × Value))} (hlayers : List.Forall₂ Frame.Holds frames layers)
    (hlayers' : List.Forall₂ Frame.Holds frames' layers') (hlength : frames.length = k + 1)
    (hlength' : frames'.length = k + 1) (hclear : Valued.clear (stageVeil s k) s.world frames)
    (hsame : ∀ name, layers'.reverse.flatten.lookup name = layers.reverse.flatten.lookup name) :
    (stageVeil s k).Alike ((afterCompiling s given log c serial).entered frames)
      ((afterCompiling s given log' c' serial).entered frames') := by
  have hworld := world_append s frames.toArray
  have hrow {frames : List Frame} {layers : List (List (String × Value))}
      (hlayers : List.Forall₂ Frame.Holds frames layers) (hlength : frames.length = k + 1) :
      List.Forall₂ (Lists (s.frames ++ frames.toArray)) (stageVeil s k).row layers.reverse :=
    List.forall₂_reverse_iff.2 (hlength ▸ lists_append hlayers s.frames)
  rw [State.entered, State.entered, hlength, hlength']
  refine alike_compiledState (V := stageVeil s k) rfl rfl (fun _ _ => rfl) hs.cells.clear
    hs.handled.clear hs.caches.clear hworld (fun f hf => Valued.mono hworld ?_) ?_ ?_ ?_
    ⟨_, _, hrow hlayers hlength, hrow hlayers' hlength', hsame⟩ log log' c c' (serial + k)
  · rcases Array.mem_append.1 hf with hf | hf
    · exact hs.frames.clear f hf
    · exact hclear f (List.mem_toArray.1 hf)
  · simp [hlength, hlength']
  · intro a ha
    have hle := (hides_stageVeil.1 ha).2
    simp only [Array.size_append, List.size_toArray, hlength]
    omega
  · intro a ha
    rw [hides_stageVeil] at ha
    rw [Array.getElem?_append, Array.getElem?_append]
    split
    · rfl
    · rw [List.getElem?_toArray, List.getElem?_toArray, List.getElem?_eq_none (by omega),
        List.getElem?_eq_none (by omega)]

end Veil

/-! ### The same outcome -/

/-- Makes a first call, and then the calls of a sequence about what it came to. -/
def callThen (m : Machine) (first : Run Value) (calls : List StageCall) :
    Run (Except Value Value × List (Except Value Value)) := do
  let result ← attempted first
  return (result, ← callStages m [outcomeValue result] calls)

theorem ends_callThen_congr {first first' : Run Value} {s t : State}
    (h : first.ends s = first'.ends t) (m : Machine) (calls : List StageCall) :
    (callThen m first calls).ends s = (callThen m first' calls).ends t := by
  rw [callThen, callThen, Run.ends_bind, Run.ends_bind, attempted, attempted, Run.ends_caught,
    Run.ends_caught, h]

theorem ends_callThen_of_ok {m : Machine} {first : Run Value} {calls : List StageCall}
    {s t u : State} {v : Value} {results : List (Except Value Value)}
    (h : first.ends s = some (.ok v, t))
    (hcalls : (callStages m [v] calls).ends t = some (.ok results, u)) :
    (callThen m first calls).ends s = some (.ok (.ok v, results), u) := by
  rw [callThen, attempted, Run.ends_bind, Run.ends_caught, h]
  exact Run.ends_bind_of_ok hcalls _

instance apart_callThen {V : Veil} {c : Facts V} (m : Machine) [m.Apart V] (first : Run Value)
    (calls : List StageCall) [Run.Apart c first] [Has c calls] :
    Run.Apart c (callThen m first calls) := by
  unfold callThen
  infer_instance

/-- Whether two ends have the same result, and states that differ only in what a compiling and the
calls of so many stages after a first one have made: in one cell, in one compiler, in the frames of
the stages and in the log. -/
def SameStagedOutcome {α : Type} (s : State) (k : Nat) :
    Option (Except Value α × State) → Option (Except Value α × State) → Prop
  | none, none => True
  | some (result, t), some (result', t') =>
    result' = result ∧
      t' = { t with
        cells := t'.cells, frames := t'.frames, compilers := t'.compilers, log := t'.log } ∧
      (∀ a ≠ s.cells.size, t'.cells[a]? = t.cells[a]?) ∧
      (∀ a ≠ s.compilers.size, t'.compilers[a]? = t.compilers[a]?) ∧
      ∀ a, a < s.frames.size ∨ s.frames.size + k < a → t'.frames[a]? = t.frames[a]?
  | _, _ => False

/-- The same outcome, unless a scope has been shown before one of the ends. -/
def SameUnlessShown {α : Type} (s : State) (k : Nat) (e e' : Option (Except Value α × State)) : Prop :=
  ¬ Exposes e → ¬ Exposes e' → SameStagedOutcome s k e e'

theorem SameUnlessShown.of_endsAlike {s : State} {k : Nat} {W : World} {α : Type} [Valued α]
    {e e' : Option (Except Value α × State)} (h : (stageVeil s k).EndsAlike W e e') :
    SameUnlessShown s k e e' := by
  intro hshown hshown'
  cases h with
  | lost hlost hlost' =>
    rw [hlost.eq_none hshown, hlost'.eq_none hshown']
    trivial
  | same halike _ _ =>
    refine ⟨rfl, halike.rest, halike.cells, halike.compilers, fun a ha => halike.frames a ?_⟩
    rw [hides_stageVeil]
    omega

/-! ### Bodies of chains -/

/-- The scope of the body of a chain, where its first stage and so many after it have been called. -/
def stageScope (s : State) (k : Nat) : Scope :=
  Scope.inside ⟨[], s.cells.size, ""⟩ s "<lambda>" k

theorem frames_stageScope (s : State) (k : Nat) : (stageScope s k).frames = (stageVeil s k).row :=
  List.append_nil _

/-- What is known of that scope: its frames list names, and declare none global. -/
def stageFacts (s : State) (k : Nat) : Facts (stageVeil s k) :=
  ⟨fun W => ∀ a ∈ (stageScope s k).frames, (W a).isSome, fun hW hc a ha => by
    obtain ⟨names, hnames⟩ := Option.isSome_iff_exists.1 (hc a ha)
    rw [hW a names hnames]
    rfl⟩

/-- All names may be looked up there. -/
theorem covers_stageScope {s : State} {k : Nat} {W : World} (hW : (stageFacts s k).holds W)
    (names : List String) : (stageVeil s k).Covers W (stageScope s k) names :=
  ⟨⟨[], _, rfl, List.forall_mem_nil _, .inr ⟨rfl, frames_stageScope s k⟩⟩,
    fun _ => ⟨hW, fun _ _ => .inl trivial⟩⟩

theorem holds_stageFacts {s : State} {k : Nat} (given : Value) (log : Array Log.Record) (c : Compiler)
    (serial : Nat) {frames : List Frame} {layers : List (List (String × Value))}
    (hlayers : List.Forall₂ Frame.Holds frames layers) (hlength : frames.length = k + 1) :
    (stageFacts s k).holds ((afterCompiling s given log c serial).entered frames).world := by
  have hknown : (∀ a ∈ List.range' s.frames.size frames.length,
      (((afterCompiling s given log c serial).entered frames).world a).isSome) ∧ _ :=
    (List.forall₂_and_left _ _).1
      ((lists_append hlayers s.frames).imp fun _ _ h => ⟨h.isSome_world, h⟩)
  intro a ha
  rw [frames_stageScope, stageVeil, List.mem_reverse, ← hlength] at ha
  exact hknown.1 a ha

/-- An expression has the same outcome where other frames of stages give all names the same values,
and so have all calls that follow, unless a scope is shown on the way. -/
theorem endsAlike_entered {s : State} {k : Nat} (hs : s.IsSettled) (given : Value)
    (log log' : Array Log.Record) (c c' : Compiler) (serial : Nat) {frames frames' : List Frame}
    {layers layers' : List (List (String × Value))} (hlayers : List.Forall₂ Frame.Holds frames layers)
    (hlayers' : List.Forall₂ Frame.Holds frames' layers') (hlength : frames.length = k + 1)
    (hlength' : frames'.length = k + 1) (hclear : Valued.clear (stageVeil s k) s.world frames)
    (hsame : ∀ name, layers'.reverse.flatten.lookup name = layers.reverse.flatten.lookup name)
    (n : Nat) (e : Expr) {calls : List StageCall} (hcalls : Settled s calls) :
    let run := callThen machine (Run.deeper ((machineAt n).expr (stageScope s k) e)) calls
    (stageVeil s k).EndsAlike s.world
      (run.ends ((afterCompiling s given log c serial).entered frames).watched)
      (run.ends ((afterCompiling s given log' c' serial).entered frames').watched) := by
  have : Covered ((stageFacts s k).and calls) (stageScope s k) e.free :=
    ⟨fun hc => covers_stageScope hc.1 e.free⟩
  have hrun : Run.Apart ((stageFacts s k).and calls)
      (callThen machine (Run.deeper ((machineAt n).expr (stageScope s k) e)) calls) := inferInstance
  have halike := alike_entered hs given log log' c c' serial hlayers hlayers' hlength hlength' hclear
    hsame
  have hwatched := halike.map (g := State.watched) (fun _ _ _ _ _ => rfl)
    (halike.shows.keep rfl rfl rfl halike.shows.handled)
  have hworld : s.world.Within
      ((afterCompiling s given log c serial).entered frames).watched.world := world_append s _
  exact (hrun.ends hwatched ⟨holds_stageFacts given log c serial hlayers hlength,
    Valued.mono hworld hcalls.clear⟩).mono hworld

end LambdaText
