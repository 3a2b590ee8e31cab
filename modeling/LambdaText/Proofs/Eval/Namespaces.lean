import LambdaText.Proofs.Eval.RemainingChain
import LambdaText.Proofs.Veiled.Evaluator

/-!
# What a namespace matters for

A text that is compiled with two namespaces makes the same function over two cells of global names.
Where the namespaces agree on the free names of the body, but for the parameters of the stages, no
sequence of calls tells the two cells apart, unless it asks for the global names as such.
-/

namespace LambdaText

open LambdaText.Code LambdaText.Function LambdaText.Source

/-! ### Data that lead nowhere new -/

/-- Whether data lead to nothing that is still to be made in a state: no cell, no compiler and no
frame. -/
def Settled {α : Type} [Valued α] (s : State) (a : α) : Prop :=
  ∀ V : Veil, V.cell = s.cells.size → V.compiler = s.compilers.size →
    (∀ n ∈ V.row, s.frames.size ≤ n) → Valued.clear V s.world a

/-- Whether all data of a state lead to what is made already. -/
structure State.IsSettled (s : State) : Prop where
  cells : Settled s s.cells
  frames : Settled s s.frames
  handled : Settled s s.handled
  caches : Settled s (s.compilers.toList.map Compiler.cache)

/-! ### Free names of stages -/

section Veil

variable {s : State} {given given' : Value}

theorem clear_globalEntries {V : Veil} {W : World} (given : Value)
    (hcells : Valued.clear V W s.cells) : Valued.clear V W (globalEntries s given) := by
  let c : Facts V := (default : Facts V).and s.cells
  have hbuiltin : Has c builtinEntries := by
    unfold builtinEntries
    exact has_toArray [(Value.text "__builtins__", Value.module "builtins")]
  have hgiven : Has c (namespaceEntries s given) := by
    unfold namespaceEntries
    split
    · next a =>
      have hcell : Has c (s.cells[a]?.getD (.list #[])) := inferInstance
      unfold State.dictAt
      generalize s.cells[a]?.getD (.list #[]) = cell at hcell ⊢
      refine .using cell ?_
      cases cell <;> infer_instance
    · infer_instance
  have : Has c (globalEntries s given) := by
    unfold globalEntries
    infer_instance
  exact this.clear ⟨trivial, hcells⟩

theorem getElem?_push_of_ne {α : Type} {items : Array α} {a : Nat} (h : a ≠ items.size) (item : α) :
    (items.push item)[a]? = items[a]? := by
  rw [Array.getElem?_push, if_neg h]

/-- States that differ in what a compiling has made of two namespaces and in hidden frames are
alike. -/
theorem alike_compiledState {V : Veil} (hcell : V.cell = s.cells.size)
    (hcompiler : V.compiler = s.compilers.size)
    (hagree : ∀ n, V.agreed n → namespaceValue? s given' n = namespaceValue? s given n)
    (hcells : Valued.clear V s.world s.cells) (hhandled : Valued.clear V s.world s.handled)
    (hcaches : Valued.clear V s.world (s.compilers.toList.map Compiler.cache))
    {frames frames' : Array Frame} (hworld : s.world.Within ({ s with frames } : State).world)
    (hframes : Valued.clear V ({ s with frames } : State).world frames)
    (hsize : frames'.size = frames.size) (hhidden : ∀ a, V.Hides a → a < frames.size)
    (hkept : ∀ a, ¬ V.Hides a → frames'[a]? = frames[a]?)
    (hshared : SharesOut frames frames' V.row) (log log' : Array Log.Record) (k k' : Compiler)
    (serial : Nat) :
    V.Alike { compiledState s given with log, compilers := s.compilers.push k, frames, serial }
      { compiledState s given' with
        log := log', compilers := s.compilers.push k', frames := frames', serial } := by
  refine ⟨⟨?_, ?_, fun a ha => ?_, hframes, Valued.mono hworld hhandled, fun a ha => ?_, hhidden⟩,
    rfl, ?_, fun a ha => ?_, ⟨globalEntries s given, globalEntries s given', ?_, ?_, fun n hn => ?_,
    fun n _ v hv => ?_⟩, ?_, fun a ha => ?_, hsize, hkept, hshared⟩
  · simp [compiledState, hcell]
  · simp [hcompiler]
  · intro cell hfound
    simp only [compiledState, getElem?_push_of_ne (hcell ▸ ha)] at hfound
    exact Valued.mono hworld (hcells cell (Array.mem_of_getElem? hfound))
  · intro cache hfound
    simp only [getElem?_push_of_ne (hcompiler ▸ ha)] at hfound
    obtain ⟨k, hk, hcache⟩ := Option.bind_eq_some_iff.1 hfound
    exact Valued.mono hworld
      (hcaches _ (List.mem_map_of_mem (Array.mem_toList_iff.2 (Array.mem_of_getElem? hk))) _ hcache)
  · simp [compiledState]
  · simp only [compiledState, getElem?_push_of_ne (hcell ▸ ha)]
  · rw [hcell]
    exact Array.getElem?_push_size
  · rw [hcell]
    exact Array.getElem?_push_size
  · rw [entryValue?_globalEntries, entryValue?_globalEntries, hagree n hn]
  · obtain ⟨e, he, rfl⟩ := Option.map_eq_some_iff.1 hv
    exact Valued.mono hworld (clear_globalEntries given hcells e
      (Array.mem_toList_iff.1 (List.mem_of_find?_eq_some he))).2
  · simp
  · simp only [getElem?_push_of_ne (hcompiler ▸ ha)]

end Veil

/-! ### Calls of stages -/

/-- A call in a sequence of calls: of the function that the sequence is about, or of what an earlier
call came to. -/
structure StageCall where
  /-- What is called: the function, or what the call of this number came to. -/
  callee : Nat
  /-- The positions, given as values or as what earlier calls came to. -/
  positions : List (Value ⊕ Nat)
  /-- The keywords. -/
  keywords : List (String × (Value ⊕ Nat))

instance valuedStageCall : Valued StageCall where
  clear V W k := Valued.clear V W k.positions ∧ Valued.clear V W k.keywords
  mono h hk := ⟨Valued.mono h hk.1, Valued.mono h hk.2⟩

/-- The value of an argument, given the function and what the calls so far came to. -/
def argumentValue (results : List Value) : Value ⊕ Nat → Value
  | .inl v => v
  | .inr i => results[i]?.getD .none

def StageCall.run (m : Machine) (results : List Value) (k : StageCall) : Run Value :=
  m.call (argumentValue results (.inr k.callee)) (k.positions.map (argumentValue results))
    (k.keywords.map fun p => (p.1, argumentValue results p.2))

/-- What later calls may use of a result: the value, or the error. -/
def outcomeValue : Except Value Value → Value
  | .ok v => v
  | .error e => e

/-- Makes the calls of a sequence one after the other; errors are kept and can be used like other
results. -/
def callStages (m : Machine) : List Value → List StageCall → Run (List (Except Value Value))
  | _, [] => return []
  | results, k :: rest => do
    let result ← attempted (k.run m results)
    return result :: (← callStages m (results ++ [outcomeValue result]) rest)

theorem ends_callStages_one {m : Machine} {f v : Value} {row : List Value} {s t : State}
    (h : (m.call f row []).ends s = some (.ok v, t)) :
    (callStages m [f] [⟨0, row.map .inl, []⟩]).ends s = some (.ok [.ok v], t) := by
  have hrow : (row.map Sum.inl).map (argumentValue [f]) = row := by
    rw [List.map_map]
    exact List.map_id row
  have hrun : (StageCall.run m [f] ⟨0, row.map .inl, []⟩).ends s = some (.ok v, t) := by
    rw [StageCall.run, hrow]
    exact h
  rw [callStages, attempted, Run.ends_bind, Run.ends_caught, hrun]
  rfl

section Calls

variable {V : Veil} {c : Facts V}

instance has_outcomeValue (result : Except Value Value) [Has c result] :
    Has c (outcomeValue result) := by
  cases result with
  | ok v => exact Has.imp (a := (.ok v : Except Value Value)) fun _ h => h
  | error e => exact Has.imp (a := (.error e : Except Value Value)) fun _ h => h

instance has_argumentValue (results : List Value) (a : Value ⊕ Nat) [Has c results] [Has c a] :
    Has c (argumentValue results a) := by
  cases a with
  | inl v => exact Has.imp (a := (.inl v : Value ⊕ Nat)) fun _ h => h
  | inr i =>
    unfold argumentValue
    infer_instance

instance has_positions (k : StageCall) [Has c k] : Has c k.positions :=
  Has.imp (a := k) fun _ h => h.1

instance has_keywords (k : StageCall) [Has c k] : Has c k.keywords :=
  Has.imp (a := k) fun _ h => h.2

instance apart_callStages (m : Machine) [m.Apart V] (results : List Value)
    (calls : List StageCall) [Has c results] [Has c calls] :
    Run.Apart c (callStages m results calls) := by
  induction calls generalizing results c with
  | nil => exact Run.apart_pure _
  | cons k rest ih =>
    unfold callStages
    refine .using (k :: rest) (.bind ?_ fun result => .using result ?_)
    · unfold StageCall.run
      infer_instance
    · infer_instance

end Calls

/-- Whether two ends have the same result and states that differ only in one cell, in one compiler
and in the log. -/
def SameOutcome {α : Type} (cell compiler : Nat) :
    Option (Except Value α × State) → Option (Except Value α × State) → Prop
  | none, none => True
  | some (result, t), some (result', t') =>
    result' = result ∧
      t' = { t with cells := t'.cells, compilers := t'.compilers, log := t'.log } ∧
      (∀ a ≠ cell, t'.cells[a]? = t.cells[a]?) ∧ ∀ a ≠ compiler, t'.compilers[a]? = t.compilers[a]?
  | _, _ => False

theorem SameOutcome.of_endsAlike {V : Veil} {W : World} {α : Type} [Valued α]
    {e e' : Option (Except Value α × State)} (hV : V.row = []) (h : V.EndsAlike W e e')
    (he : ¬ Exposes e) (he' : ¬ Exposes e') : SameOutcome V.cell V.compiler e e' := by
  cases h with
  | lost hlost hlost' =>
    rw [hlost.eq_none he, hlost'.eq_none he']
    trivial
  | same halike _ _ =>
    have hframes := Array.ext_getElem? fun a => halike.frames a (by simp [Veil.Hides, hV])
    refine ⟨rfl, ?_, halike.cells, halike.compilers⟩
    conv_lhs => rw [halike.rest, hframes]

/-! ### Names that are looked up -/

/-- Compiles a text with a namespace and calls the function that it makes. -/
def callCompiled (text : String) (given : Value) (row : List Value) : Run Value := do
  let c ← compileNew machine {} text given
  machine.call c row []

end LambdaText
