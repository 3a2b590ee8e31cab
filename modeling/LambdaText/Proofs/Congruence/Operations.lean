import LambdaText.Proofs.Congruence.Values

/-!
# Congruences relate operations

If the calls and the items of two machines are related by a congruence, so is what operations do
with the two machines: iterating, compiling, coercing, making functions from functions, and walking
over sequences.
-/

namespace LambdaText

open LambdaText.Code LambdaText.Function LambdaText.Log LambdaText.Text
open Run (Related Respects)

/-- Machines whose calls are related, and whose items are. -/
class Machine.Related (R : Run.Relation) (m₀ m : Machine) : Prop where
  call (f : Value) (positions : List Value) (keywords : Keywords) :
    Run.Related R (m₀.call f positions keywords) (m.call f positions keywords)
  advance (address : Nat) : Run.Related R (m₀.advance address) (m.advance address)

attribute [instance] Machine.Related.call Machine.Related.advance

section

/-! ### Items -/

section

variable {R : Run.Relation} [Run.Congruence R] (m₀ m : Machine) [m₀.Related R m]

instance related_next? (it : Value) : Related R (next? m₀ it) (next? m it) := by
  unfold next?
  split <;> infer_instance

instance related_foldItems {σ α : Type} (it : Value) (step₀ step : σ → Value → Run (σ ⊕ α))
    (final₀ final : σ → Run α) [∀ s v, Related R (step₀ s v) (step s v)]
    [∀ s, Related R (final₀ s) (final s)] (s : σ) :
    Related R (foldItems m₀ it step₀ final₀ s) (foldItems m it step final s) := by
  unfold foldItems
  refine @Run.related_iterate _ _ _ _ _ _ (fun s => .bind inferInstance fun v => ?_) s
  cases v <;> infer_instance

instance related_drain (it : Value) : Related R (drain m₀ it) (drain m it) := by
  unfold drain
  infer_instance

instance related_itemsOf (v : Value) : Related R (itemsOf m₀ v) (itemsOf m v) := by
  unfold itemsOf
  refine .bind inferInstance fun items => ?_
  cases items <;> infer_instance

instance related_addPairs (entries : Array (Value × Value)) (n : Nat) (items : List Value) :
    Related R (addPairs m₀ entries n items) (addPairs m entries n items) := by
  induction items generalizing entries n with
  | nil => exact Run.respects_pure _
  | cons v items ih =>
    unfold addPairs
    repeat' first | infer_instance | split | with_reducible refine .bind ?_ fun _ => ?_ | dsimp only

instance related_updateEntries (entries : Array (Value × Value)) (source : Option Value)
    (keywords : Keywords) :
    Related R (updateEntries m₀ entries source keywords)
      (updateEntries m entries source keywords) := by
  unfold updateEntries
  split <;> infer_instance

end

/-! ### Compiling -/

/-- A congruence that also relates what compiling says, how it fails, and how compilers are looked
at and made. -/
class CompilingCongruence (R : Run.Relation) : Prop extends Run.Congruence R where
  debug (source message : String) :
    R Unit (Run.log source .debug message) (Run.log source .debug message)
  fail {α : Type} (fault : Fault) : R α (fail fault) (fail fault)
  compilerSettings (address : Nat) :
    R Settings (compilerSettings address) (compilerSettings address)
  compilerCache (address : Nat) :
    R (Option (Cache String Value)) (compilerCache address) (compilerCache address)
  newCompiler (settings : Settings) : R Nat (newCompiler settings) (newCompiler settings)

variable {R : Run.Relation} [CompilingCongruence R] (m₀ m : Machine) [m₀.Related R m]

instance respects_debug (source message : String) :
    Respects R (Run.log source .debug message) :=
  ⟨CompilingCongruence.debug source message⟩

instance respects_fail {α : Type} (fault : Fault) : Respects R (fail fault : Run α) :=
  ⟨CompilingCongruence.fail fault⟩

instance respects_compilerSettings (address : Nat) : Respects R (compilerSettings address) :=
  ⟨CompilingCongruence.compilerSettings address⟩

instance respects_compilerCache (address : Nat) : Respects R (compilerCache address) :=
  ⟨CompilingCongruence.compilerCache address⟩

instance respects_newCompiler (settings : Settings) : Respects R (newCompiler settings) :=
  ⟨CompilingCongruence.newCompiler settings⟩

instance respects_logSource (s : Source) : Respects R (logSource s) := by
  unfold logSource
  infer_instance

instance respects_readSource (settings : Settings) (v : Value) :
    Respects R (readSource settings v) := by
  unfold readSource
  repeat' first | infer_instance | split

instance respects_readBlockSource (v : Value) : Respects R (readBlockSource v) := by
  unfold readBlockSource
  split <;> infer_instance

instance respects_nullCharacter {α : Type} : Respects R (nullCharacter : Run α) := by
  unfold nullCharacter
  infer_instance

instance respects_makeFunction (scope : Scope) (code : Routine)
    (defaults : List (String × Value)) : Respects R (makeFunction scope code defaults) := by
  unfold makeFunction
  infer_instance

instance respects_wrapCompiled (s : Source) (function : Value) :
    Respects R (wrapCompiled s function) := by
  unfold wrapCompiled
  infer_instance

instance related_globalsFor (given : Value) :
    Related R (globalsFor m₀ given) (globalsFor m given) := by
  unfold globalsFor
  infer_instance

instance related_compileText (settings : Settings) (text given : Value) :
    Related R (compileText m₀ settings text given) (compileText m settings text given) := by
  unfold compileText
  refine .bind inferInstance fun _ => ?_
  split <;> infer_instance

instance related_compileBlock (text given : Value) :
    Related R (compileBlock m₀ text given) (compileBlock m text given) := by
  unfold compileBlock
  refine .bind inferInstance fun _ => ?_
  split <;> infer_instance

instance respects_loadSettings (variableOf : String → Option Datum) :
    Respects R (loadSettings variableOf) := by
  unfold loadSettings
  infer_instance

/-- Compiling with a compiler, where changes of its cache are related to themselves. -/
theorem related_compileWith_of_setCache
    (hset : ∀ address cache, Respects R (setCache address cache)) (address : Nat)
    (text given : Value) :
    Related R (compileWith m₀ address text given) (compileWith m address text given) := by
  have hkept (cache : Cache String Value) :
      Related R (compileKept m₀ address cache text) (compileKept m address cache text) := by
    unfold compileKept
    repeat' first | infer_instance | split | with_reducible refine .bind ?_ fun _ => ?_
  unfold compileWith
  refine .bind inferInstance fun cache => ?_
  split <;> infer_instance

/-! ### Functions from functions -/

instance respects_newCurried (c : Curried Value) : Respects R (LambdaText.newCurried c) := by
  unfold LambdaText.newCurried
  infer_instance

instance respects_newCombined (c : Combinator Value) : Respects R (newCombined c) := by
  unfold newCombined
  infer_instance

instance respects_checkCount (n : Value) : Respects R (checkCount n) := by
  unfold checkCount
  infer_instance

/-! ### Walks -/

/-- Walks whose steps are related, and whose final steps are. -/
class WalkRelated (R : Run.Relation) {σ ρ : Type} (w₀ w : Walk Run Value σ ρ) : Prop where
  step (s : σ) (v : Value) : Related R (w₀.step s v) (w.step s v)
  final (s : σ) : Related R (w₀.final s) (w.final s)

attribute [instance] WalkRelated.step WalkRelated.final

section Walks

variable {σ ρ : Type} (w₀ w : Walk Run Value σ ρ) [WalkRelated R w₀ w]

instance related_over (s : σ) (items : List Value) :
    Related R (w₀.over s items) (w.over s items) := by
  induction items generalizing s with
  | nil =>
    unfold Walk.over
    infer_instance
  | cons v items ih =>
    unfold Walk.over
    refine .bind inferInstance fun result => ?_
    cases result <;> infer_instance

instance related_walkRange (step i : Int) (n : Nat) (s : σ) :
    Related R (walkRange w₀ step i n s) (walkRange w step i n s) := by
  induction n generalizing i s with
  | zero =>
    unfold walkRange
    infer_instance
  | succ n ih =>
    unfold walkRange
    refine .bind inferInstance fun result => ?_
    cases result <;> infer_instance

instance related_listStep (address : Nat) (place : Nat × σ) :
    Related R (listStep w₀ address place) (listStep w address place) := by
  unfold listStep
  refine .bind inferInstance fun items => ?_
  cases items[place.1]? with
  | none => infer_instance
  | some v =>
    refine .bind inferInstance fun result => ?_
    cases result <;> infer_instance

instance related_walkList (address : Nat) (s : σ) :
    Related R (walkList w₀ address s) (walkList w address s) := by
  unfold walkList
  infer_instance

instance related_walkOver (s : σ) (v : Value) :
    Related R (walkOver m₀ w₀ s v) (walkOver m w s v) := by
  unfold walkOver
  repeat' first | infer_instance | split

end Walks

section Steps

variable (call₀ call : Value → List Value → Run Value)
  [∀ f arguments, Related R (call₀ f arguments) (call f arguments)]
  (collect : Array Value → Run Value) [∀ items, Respects R (collect items)] (f : Value)

instance : WalkRelated R (mapping call₀ collect f) (mapping call collect f) where
  step s v := by
    unfold mapping
    infer_instance
  final s := inferInstanceAs (Respects R (collect s))

instance : WalkRelated R (folding call₀ f) (folding call f) where
  step s v := by
    unfold folding
    infer_instance
  final s := inferInstanceAs (Respects R (pure s : Run Value))

instance : WalkRelated R (foldingBack call₀ f) (foldingBack call f) where
  step s v := by
    unfold foldingBack
    infer_instance
  final s := inferInstanceAs (Respects R (pure s : Run Value))

instance : WalkRelated R (selecting call₀ truth collect f) (selecting call truth collect f) where
  step s v := by
    unfold selecting
    infer_instance
  final s := inferInstanceAs (Respects R (collect s))

instance (goal : Bool) :
    WalkRelated R (deciding call₀ truth goal f) (deciding call truth goal f) where
  step s v := by
    unfold deciding
    infer_instance
  final s := inferInstanceAs (Respects R (pure s : Run Value))

end Steps

instance related_callOn (f : Value) (positions : List Value) :
    Related R (callOn m₀ f positions) (callOn m f positions) :=
  Machine.Related.call f positions []

instance respects_newRows (rows : List (List Value)) : Respects R (newRows rows) := by
  unfold newRows
  infer_instance

instance related_rowsAtHand? (sequences : List Value) :
    Related R (rowsAtHand? m₀ sequences) (rowsAtHand? m sequences) := by
  induction sequences with
  | nil => exact Run.respects_pure _
  | cons v rest ih =>
    unfold rowsAtHand?
    split <;> infer_instance

instance related_zipItems (sequences : List Value) :
    Related R (zipItems m₀ sequences) (zipItems m sequences) := by
  unfold zipItems
  refine .bind inferInstance fun _ => .bind inferInstance fun rows => ?_
  cases rows <;> infer_instance

end

/-! ### Compilers and coercion -/

/-- A congruence that also relates what compilers, the environment and the shared compiler are asked
for. -/
class LibraryCongruence (R : Run.Relation) : Prop extends CompilingCongruence R where
  compileWith {m₀ m : Machine} (h : m₀.Related R m) (address : Nat) (text given : Value) :
    R Value (compileWith m₀ address text given) (compileWith m address text given)
  refuse (v : Value) : R Value (refuse v) (refuse v)
  environmentSettings : R Settings environmentSettings environmentSettings
  sharedCompiler : R Nat sharedCompiler sharedCompiler
  resetShared : R Unit resetShared resetShared

variable {R : Run.Relation} [LibraryCongruence R] (m₀ m : Machine) [m₀.Related R m]

instance related_compileWith (address : Nat) (text given : Value) :
    Related R (compileWith m₀ address text given) (compileWith m address text given) :=
  ⟨LibraryCongruence.compileWith inferInstance address text given⟩

instance respects_refuse (v : Value) : Respects R (refuse v) := ⟨LibraryCongruence.refuse v⟩

instance respects_environmentSettings : Respects R environmentSettings :=
  ⟨LibraryCongruence.environmentSettings⟩

instance respects_sharedCompiler : Respects R sharedCompiler := ⟨LibraryCongruence.sharedCompiler⟩

instance respects_resetShared : Respects R resetShared := ⟨LibraryCongruence.resetShared⟩

instance related_asCallable (v given : Value) :
    Related R (asCallable m₀ v given) (asCallable m v given) := by
  unfold asCallable
  split <;> infer_instance

instance related_coerce (v : Value) : Related R (coerce m₀ v) (coerce m v) :=
  related_asCallable m₀ m v .none

instance related_coerceAll (vs : List Value) :
    Related R (coerceAll m₀ vs) (coerceAll m vs) := by
  induction vs with
  | nil => exact Run.respects_pure _
  | cons v vs ih =>
    unfold coerceAll
    infer_instance

instance related_coercePresent (v : Value) :
    Related R (coercePresent m₀ v) (coercePresent m v) := by
  unfold coercePresent
  split <;> infer_instance

/-! ### Operations with functions -/

instance related_hold (right : Bool) (f : Value) (arguments : List Value) :
    Related R (hold m₀ right f arguments) (hold m right f arguments) := by
  unfold hold
  infer_instance

instance related_holdCounted (right : Bool) (n f : Value) (arguments : List Value) :
    Related R (holdCounted m₀ right n f arguments) (holdCounted m right n f arguments) := by
  unfold holdCounted
  infer_instance

instance related_holdTemplate (f : Value) (items : List Value) :
    Related R (holdTemplate m₀ f items) (holdTemplate m f items) := by
  unfold holdTemplate
  infer_instance

instance related_combineOne (make : Value → Combinator Value) (f : Value) :
    Related R (combineOne m₀ make f) (combineOne m make f) := by
  unfold combineOne
  infer_instance

instance related_combineTwo (make : Value → Value → Combinator Value) (f g : Value) :
    Related R (combineTwo m₀ make f g) (combineTwo m make f g) := by
  unfold combineTwo
  infer_instance

instance related_combineRow (make : List Value → Combinator Value) (fs : List Value) :
    Related R (combineRow m₀ make fs) (combineRow m make fs) := by
  unfold combineRow
  infer_instance

instance related_combineGuarded (f test fallback : Value) :
    Related R (combineGuarded m₀ f test fallback) (combineGuarded m f test fallback) := by
  unfold combineGuarded
  infer_instance

instance related_mapItems (f v : Value) : Related R (mapItems m₀ f v) (mapItems m f v) := by
  unfold mapItems
  infer_instance

instance related_foldLeft (f start v : Value) :
    Related R (foldLeft m₀ f start v) (foldLeft m f start v) := by
  unfold foldLeft
  infer_instance

instance related_foldRight (f start v : Value) :
    Related R (foldRight m₀ f start v) (foldRight m f start v) := by
  unfold foldRight
  infer_instance

instance related_selectItems (f v : Value) :
    Related R (selectItems m₀ f v) (selectItems m f v) := by
  unfold selectItems
  infer_instance

instance related_someItem (f v : Value) : Related R (someItem m₀ f v) (someItem m f v) := by
  unfold someItem
  infer_instance

instance related_everyItem (f v : Value) : Related R (everyItem m₀ f v) (everyItem m f v) := by
  unfold everyItem
  infer_instance

/-! ### All operations -/

namespace Operation

instance respects_freeNamesOf (text receiver : Value) :
    Respects R (freeNamesOf text receiver) := by
  unfold freeNamesOf
  split <;> infer_instance

instance respects_formNamed (v : Value) : Respects R (formNamed v) := by
  unfold formNamed
  repeat' first | infer_instance | split

instance respects_sourceOf (keywords : Keywords) : Respects R (sourceOf keywords) := by
  unfold sourceOf
  infer_instance

instance respects_settingsOf (keywords : Keywords) : Respects R (settingsOf keywords) := by
  unfold settingsOf
  infer_instance

instance respects_settingsFrom (v : Value) : Respects R (settingsFrom v) := by
  unfold settingsFrom
  split
  · infer_instance
  · refine .bind inferInstance fun d => ?_
    split <;> infer_instance
  · infer_instance

instance respects_compilerFor (v : Value) : Respects R (compilerFor v) := by
  unfold compilerFor
  refine .bind inferInstance fun _ => ?_
  repeat' first | infer_instance | split

instance respects_compiledOf (source function : Value) :
    Respects R (compiledOf source function) := by
  unfold compiledOf
  split <;> infer_instance

instance respects_syntaxErrorOf (message expression details : Value) :
    Respects R (syntaxErrorOf message expression details) := by
  unfold syntaxErrorOf
  infer_instance

instance respects_coercionErrorOf (v : Value) : Respects R (coercionErrorOf v) := by
  unfold coercionErrorOf
  infer_instance

instance related_run (op : Operation) (arguments more : List Value) :
    Related R (op.run m₀ arguments more) (op.run m arguments more) := by
  unfold run
  split <;> infer_instance

instance related_invokeWith (op : Operation) (name : String) (positions : List Value)
    (keywords : Keywords) : Related R (op.invokeWith m₀ name positions keywords)
      (op.invokeWith m name positions keywords) := by
  unfold invokeWith positionalFields
  split <;> infer_instance

end Operation

end LambdaText
