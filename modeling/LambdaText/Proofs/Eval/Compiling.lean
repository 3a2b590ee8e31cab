import LambdaText.Proofs.Eval.Globals
import LambdaText.Proofs.Source.Arrows

/-!
# How compiling ends

Compiling a text fails with the first fault that is found, or makes one function and one compiled
text around it. Apart from the log and what the compiler keeps, only the cell of the global names
and two serial numbers are new in the state.
-/

namespace LambdaText

open LambdaText.Code LambdaText.Function LambdaText.Log LambdaText.Text

def faultError (fault : Fault) : Value :=
  .error fault.kind [.text fault.detailedMessage] (some (.fault fault))

/-- The error about a character that no code may have. -/
def nullError : Value :=
  .error "ValueError" [.text "source code string cannot contain null bytes"] none

/-- What the compiling of a source comes to: an error, or the parameters and the body of a
function. -/
def sourceResult (s : Source) : Except Value (List String × Expr) :=
  if hasNull s.finalBody.toList then .error nullError
  else (sourceFunction s).mapError faultError

/-- What the compiling of a text comes to: an error, or a source with the parameters and the body
of its function. -/
def compileResult (settings : Settings) (text : String) :
    Except Value (Source × List String × Expr) :=
  match Source.read settings.operandName.toList settings.receiver.toList text with
  | .error fault => .error (faultError fault)
  | .ok s => (sourceResult s).map fun f => (s, f)

def compiledFunction (s : State) (f : List String × Expr) : Value :=
  .function s.serial (lambdaRoutine (f.1.map Parameter.plain) f.2) ⟨[], s.cells.size, ""⟩
    "<lambda>" []

/-- The state after compiling with a namespace, but for the log and the compilers. -/
def compiledState (s : State) (given : Value) : State :=
  { s with cells := s.cells.push (.dict (globalEntries s given)), serial := s.serial + 2 }

/-- How compiling in a state ends that comes to a result and leaves this log and these
compilers. -/
def compilingEnd (s : State) (given : Value) (log : Array Record) (compilers : Array Compiler) :
    Except Value (Source × List String × Expr) → Option (Except Value Value × State)
  | .error e => some (.error e, { s with log, compilers })
  | .ok (source, f) =>
    some (.ok (.compiled (s.serial + 1) source (compiledFunction s f)),
      { compiledState s given with log, compilers })

/-! ### Faults and records -/

theorem ends_fail {α : Type} (fault : Fault) (s : State) :
    ∃ log, (fail fault : Run α).ends s = some (.error (faultError fault), { s with log }) := by
  unfold fail
  cases fault.record? with
  | none => exact ⟨s.log, rfl⟩
  | some r => exact ⟨s.log.push ⟨r.source, r.level, r.message⟩, rfl⟩

/-- A value is refused after that has been logged. -/
theorem ends_refuse (v : Value) (s : State) :
    (refuse v).ends s = (shown v >>= fun text => throw (faultError (.notCallable v.kindName text)) :
      Run Value).ends
        { s with log := s.log.push ⟨Log.coercionLog, .error, refusalMessage v.kindName⟩ } :=
  rfl

theorem ends_logSource (source : Source) (s : State) :
    ∃ log, (logSource source).ends s = some (.ok (), { s with log }) := by
  unfold logSource
  by_cases h : source.form = .implicit
  · simp only [h, if_true]
    exact ⟨_, rfl⟩
  · simp only [h, if_false]
    exact ⟨_, rfl⟩

theorem ends_readSource_error {settings : Settings} {text : String} {fault : Fault}
    (h : Source.read settings.operandName.toList settings.receiver.toList text = .error fault)
    (s : State) : ∃ log, (readSource settings (.text text)).ends s =
      some (.error (faultError fault), { s with log }) := by
  simp only [readSource, h]
  exact ends_fail fault s

theorem ends_readSource_ok {settings : Settings} {text : String} {source : Source}
    (h : Source.read settings.operandName.toList settings.receiver.toList text = .ok source)
    (s : State) : ∃ log, (readSource settings (.text text)).ends s =
      some (.ok source, { s with log }) := by
  obtain ⟨log, hlog⟩ := ends_logSource source s
  refine ⟨log, ?_⟩
  simp only [readSource, h]
  rw [Run.ends_bind_of_ok hlog]
  rfl

theorem ends_makeFunction (scope : Scope) (code : Routine) (defaults : List (String × Value))
    (s : State) : (makeFunction scope code defaults).ends s =
      some (.ok (.function s.serial code scope (scope.path ++ code.name) defaults),
        { s with serial := s.serial + 1 }) := rfl

theorem ends_wrapCompiled (source : Source) (f : Value) (s : State) :
    ∃ log, (wrapCompiled source f).ends s =
      some (.ok (.compiled s.serial source f), { s with serial := s.serial + 1, log }) :=
  ⟨_, rfl⟩

/-! ### Compiling -/

theorem ends_wrapFunction (m : Machine) (source : Source) (f : List String × Expr)
    {given : Value} (hgiven : IsNamespace given) (s : State) :
    ∃ log, (do
        let scope : Scope := ⟨[], ← globalsFor m given, ""⟩
        let code := lambdaRoutine (f.1.map Parameter.plain) f.2
        wrapCompiled source (← makeFunction scope code []) : Run Value).ends s =
      some (.ok (.compiled (s.serial + 1) source (compiledFunction s f)),
        { compiledState s given with log }) := by
  rw [Run.ends_bind_of_ok (ends_globalsFor m hgiven s)]
  rw [Run.ends_bind_of_ok (ends_makeFunction _ _ _ _)]
  exact ends_wrapCompiled source _ _

theorem ends_compileText (m : Machine) (settings : Settings) (text : String) {given : Value}
    (hgiven : IsNamespace given) (s : State) :
    ∃ log, (compileText m settings (.text text) given).ends s =
      compilingEnd s given log s.compilers (compileResult settings text) := by
  unfold compileResult
  cases hread : Source.read settings.operandName.toList settings.receiver.toList text with
  | error fault =>
    obtain ⟨log, hlog⟩ := ends_readSource_error hread s
    exact ⟨log, Run.ends_bind_of_error hlog _⟩
  | ok source =>
    obtain ⟨log, hlog⟩ := ends_readSource_ok hread s
    simp only [compileText, sourceResult]
    rw [Run.ends_bind_of_ok hlog]
    cases hnull : hasNull source.finalBody.toList with
    | true => exact ⟨log, rfl⟩
    | false =>
      cases hf : sourceFunction source with
      | error fault =>
        obtain ⟨log', hlog'⟩ := ends_fail fault { s with log }
        exact ⟨log', hlog'⟩
      | ok f =>
        obtain ⟨log', hlog'⟩ := ends_wrapFunction m source f hgiven { s with log }
        exact ⟨log', hlog'⟩

/-! ### Blocks -/

/-- What the compiling of a block comes to: an error, or a function. -/
def blockResult (text : String) : Except Value Routine :=
  if hasNull text.toList then .error nullError
  else (blockFunction text).mapError faultError

def compiledBlock (s : State) (code : Routine) : Value :=
  .function s.serial code ⟨[], s.cells.size, ""⟩ ("" ++ code.name) []

/-- The global names of a block: those of a text, and the name of its function. -/
def blockEntries (s : State) (given : Value) (code : Routine) : Array (Value × Value) :=
  addEntry (globalEntries s given) (.text blockName) (compiledBlock s code)

/-- How compiling a block in a state ends that comes to a result and leaves this log. -/
def blockEnd (s : State) (text : String) (given : Value) (log : Array Record) :
    Except Value Routine → Option (Except Value Value × State)
  | .error e => some (.error e, { s with log })
  | .ok code =>
    some (.ok (.compiled (s.serial + 1) (.ofBlock text) (compiledBlock s code)),
      { s with
        cells := s.cells.push (.dict (blockEntries s given code))
        serial := s.serial + 2
        log })

theorem setIfInBounds_push {α : Type} (cells : Array α) (c c' : α) :
    (cells.push c).setIfInBounds cells.size c' = cells.push c' := by
  ext i hi hi'
  · simp
  · by_cases h : i = cells.size
    · simp [h]
    · have hlt : i < cells.size := by
        rw [Array.size_setIfInBounds, Array.size_push] at hi
        omega
      rw [Array.getElem_setIfInBounds_ne (by simpa using Nat.lt_succ_of_lt hlt) (Ne.symm h),
        Array.getElem_push_lt hlt, Array.getElem_push_lt hlt]

/-- Giving a function its name among its own global names. -/
theorem ends_dictSet_text (address : Nat) (name : String) (v : Value) (s : State) :
    (dictSet address (.text name) v).ends s = some (.ok (), { s with
      cells := s.cells.setIfInBounds address
        (.dict (addEntry (s.dictAt address) (.text name) v)) }) := by
  have hkey : (demandKey (.text name)).ends s = some (.ok (), s) := rfl
  rw [dictSet, Run.ends_bind_of_ok hkey, Run.ends_bind_of_ok (Run.ends_dictEntries address s)]
  rfl

theorem ends_compileBlock (m : Machine) (text : String) {given : Value}
    (hgiven : IsNamespace given) (s : State) :
    ∃ log, (compileBlock m (.text text) given).ends s =
      blockEnd s text given log (blockResult text) := by
  have hread : (readBlockSource (.text text)).ends s = some (.ok (.ofBlock text), s) := rfl
  unfold compileBlock blockResult
  rw [Run.ends_bind_of_ok hread]
  have htext : (Source.ofBlock text).text = text := rfl
  simp only [htext]
  cases hasNull text.toList with
  | true => exact ⟨s.log, rfl⟩
  | false =>
    cases blockFunction text with
    | error fault => exact ends_fail fault s
    | ok code =>
      obtain ⟨log, hwrap⟩ := ends_wrapCompiled (.ofBlock text) (compiledBlock s code)
        { s with
          cells := s.cells.push (.dict (blockEntries s given code))
          serial := s.serial + 1 }
      refine ⟨log, ?_⟩
      have hglobals : ({ s with
          cells := s.cells.push (.dict (globalEntries s given))
          serial := s.serial + 1 } : State).dictAt s.cells.size = globalEntries s given := by
        simp [State.dictAt]
      change (globalsFor m given >>= fun globals => _).ends s = _
      rw [Run.ends_bind_of_ok (ends_globalsFor m hgiven s)]
      rw [Run.ends_bind_of_ok (ends_makeFunction _ _ _ _)]
      rw [Run.ends_bind_of_ok (ends_dictSet_text _ _ _ _)]
      dsimp only
      rw [hglobals, setIfInBounds_push]
      exact hwrap

/-! ### New compilers -/

def compileNew (m : Machine) (settings : Settings) (text : String) (given : Value) :
    Run Value := do
  compileWith m (← newCompiler settings) (.text text) given

def Settings.compiler (settings : Settings) : Compiler :=
  ⟨settings, if settings.cacheSize = 0 then none else some { capacity := settings.cacheSize }⟩

/-- The error about a cache that is too large. -/
def overflowError : Value :=
  .error "OverflowError" [.text "Python int too large to convert to C ssize_t"] none

theorem ends_newCompiler {settings : Settings} (h : settings.cacheSize < maxCapacity)
    (s : State) : ∃ log, (newCompiler settings).ends s =
      some (.ok s.compilers.size,
        { s with compilers := s.compilers.push settings.compiler, log }) := by
  have hle : ¬ maxCapacity ≤ settings.cacheSize := Nat.not_le.2 h
  refine ⟨s.log.push ⟨compilerLog, .debug,
    s!"LambdaCompiler initialized (cache_size={settings.cacheSize})"⟩, ?_⟩
  simp only [newCompiler, hle, if_false]
  rfl

theorem ends_newCompiler_overflow {settings : Settings} (h : maxCapacity ≤ settings.cacheSize)
    (s : State) : (newCompiler settings).ends s = some (.error overflowError, s) := by
  simp only [newCompiler, h, if_true]
  rfl

def withCache (compilers : Array Compiler) (address : Nat) (cache : Cache String Value) :
    Array Compiler :=
  compilers.modify address fun c => { c with cache := some cache }

theorem ends_setCache (address : Nat) (cache : Cache String Value) (s : State) :
    (setCache address cache).ends s =
      some (.ok (), { s with compilers := withCache s.compilers address cache }) := rfl

theorem ends_compilerCache (address : Nat) (s : State) :
    (compilerCache address).ends s = some (.ok (s.compilers[address]?.bind Compiler.cache), s) :=
  rfl

theorem ends_compilerSettings (address : Nat) (s : State) :
    (compilerSettings address).ends s =
      some (.ok ((s.compilers[address]?.map Compiler.settings).getD {}), s) := rfl

theorem getElem?_withCache {compilers : Array Compiler} {address : Nat} {settings : Settings}
    {cache : Option (Cache String Value)} (h : compilers[address]? = some ⟨settings, cache⟩)
    (cache' : Cache String Value) :
    (withCache compilers address cache')[address]? = some ⟨settings, some cache'⟩ := by
  rw [withCache, Array.getElem?_modify, if_pos rfl, h]
  rfl

theorem withCache_withCache (compilers : Array Compiler) (address : Nat)
    (cache cache' : Cache String Value) :
    withCache (withCache compilers address cache) address cache' =
      withCache compilers address cache' := by
  ext i hi hi'
  · simp [withCache]
  · simp only [withCache, Array.getElem_modify]
    split <;> rfl

/-- The compilers after a text was not found in a cache: only what is compiled well is stored. -/
def missedCompilers (s : State) (address : Nat) (missed : Cache String Value) (text : String) :
    Except Value (Source × List String × Expr) → Array Compiler
  | .error _ => withCache s.compilers address missed
  | .ok (source, f) => withCache s.compilers address
      (missed.store text (.compiled (s.serial + 1) source (compiledFunction s f)))

theorem ends_compileKept_missed (m : Machine) {settings : Settings} {address : Nat}
    {cache missed : Cache String Value} {text : String} (hfind : cache.find text = (none, missed))
    {s : State} (hs : s.compilers[address]? = some ⟨settings, some cache⟩) :
    ∃ log, (compileKept m address cache (.text text)).ends s =
      compilingEnd s .none log (missedCompilers s address missed text (compileResult settings text))
        (compileResult settings text) := by
  have hkey : (demandKey (.text text)).ends s = some (.ok (), s) := rfl
  have hmodified := getElem?_withCache hs missed
  simp only [compileKept, hfind]
  rw [Run.ends_bind_of_ok hkey, Run.ends_bind_of_ok (ends_setCache address missed s),
    Run.ends_bind_of_ok (ends_compilerSettings address _)]
  simp only [hmodified, Option.map_some, Option.getD_some]
  obtain ⟨log, hlog⟩ := ends_compileText m settings text (show IsNamespace .none from trivial)
    { s with compilers := withCache s.compilers address missed }
  refine ⟨log, ?_⟩
  cases hresult : compileResult settings text with
  | error e =>
    rw [hresult] at hlog
    exact Run.ends_bind_of_error hlog _
  | ok found =>
    obtain ⟨source, f⟩ := found
    rw [hresult] at hlog
    rw [Run.ends_bind_of_ok hlog, Run.ends_bind_of_ok (ends_compilerCache address _)]
    simp only [compiledState, hmodified, missedCompilers]
    rw [← withCache_withCache s.compilers address missed (missed.store text _)]
    rfl

theorem ends_compileKept_found (m : Machine) (address : Nat) {cache cache' : Cache String Value}
    {text : String} {v : Value} (hfind : cache.find text = (some v, cache')) (s : State) :
    (compileKept m address cache (.text text)).ends s =
      some (.ok v, { s with compilers := withCache s.compilers address cache' }) := by
  have hkey : (demandKey (.text text)).ends s = some (.ok (), s) := rfl
  simp only [compileKept, hfind]
  rw [Run.ends_bind_of_ok hkey, Run.ends_bind_of_ok (ends_setCache address cache' s)]
  rfl

theorem compiler_cache_cases (settings : Settings) :
    settings.compiler = ⟨settings, none⟩ ∨
      ∃ cache, settings.compiler = ⟨settings, some cache⟩ ∧ cache.entries = [] := by
  unfold Settings.compiler
  split
  · exact .inl rfl
  · exact .inr ⟨_, rfl, rfl⟩

theorem withCache_push (compilers : Array Compiler) (k : Compiler) (cache : Cache String Value) :
    withCache (compilers.push k) compilers.size cache =
      compilers.push { k with cache := some cache } := by
  ext1
  · simp [withCache]
  · next i hi hi' =>
    rw [Array.size_push] at hi'
    simp only [withCache, Array.getElem_modify, Array.getElem_push]
    split <;> split <;> first | rfl | omega

/-- Compiling a text with a new compiler ends as its result says, and changes no other compiler. -/
theorem ends_compileNew_push (m : Machine) {settings : Settings}
    (hsize : settings.cacheSize < maxCapacity) (text : String) {given : Value}
    (hgiven : IsNamespace given) (s : State) :
    ∃ log k, (compileNew m settings text given).ends s =
      compilingEnd s given log (s.compilers.push k) (compileResult settings text) := by
  obtain ⟨log, hnew⟩ := ends_newCompiler hsize s
  have hs : (s.compilers.push settings.compiler)[s.compilers.size]? = some settings.compiler :=
    Array.getElem?_push_size
  have hsettings : settings.compiler.settings = settings := rfl
  obtain ⟨log', hplain⟩ := ends_compileText m settings text hgiven
    { s with compilers := s.compilers.push settings.compiler, log }
  have hdirect : (compilerSettings s.compilers.size >>= fun found =>
      compileText m found (.text text) given).ends
        { s with compilers := s.compilers.push settings.compiler, log } =
      compilingEnd s given log' (s.compilers.push settings.compiler)
        (compileResult settings text) := by
    rw [Run.ends_bind_of_ok (ends_compilerSettings _ _)]
    simp only [hs, Option.map_some, Option.getD_some, hsettings]
    rw [hplain]
    cases compileResult settings text <;> rfl
  rw [compileNew, Run.ends_bind_of_ok hnew, compileWith,
    Run.ends_bind_of_ok (ends_compilerCache _ _)]
  simp only [hs, Option.bind_some]
  rcases compiler_cache_cases settings with hcache | ⟨cache, hcache, hnone⟩
  · refine ⟨log', settings.compiler, ?_⟩
    rw [← hdirect]
    simp only [hcache]
  · cases given with
    | none =>
      rw [hcache] at hs
      have hfind : cache.find text = (none, { cache with misses := cache.misses + 1 }) := by
        simp [Cache.find, hnone]
      obtain ⟨log'', hkept⟩ := ends_compileKept_missed m hfind
        (s := { s with compilers := s.compilers.push ⟨settings, some cache⟩, log }) hs
      simp only [hcache]
      rw [hkept]
      cases compileResult settings text <;>
        exact ⟨log'', _, by rw [missedCompilers, withCache_push]; rfl⟩
    | dict a => exact ⟨log', _, hdirect⟩
    | _ => exact hgiven.elim

theorem ends_compileNew (m : Machine) {settings : Settings}
    (hsize : settings.cacheSize < maxCapacity) (text : String) {given : Value}
    (hgiven : IsNamespace given) (s : State) :
    ∃ log compilers, (compileNew m settings text given).ends s =
      compilingEnd s given log compilers (compileResult settings text) := by
  obtain ⟨log, k, h⟩ := ends_compileNew_push m hsize text hgiven s
  exact ⟨log, _, h⟩

theorem compiled_of_ends_compileNew {m : Machine} {settings : Settings} {text : String}
    {given : Value} (hgiven : IsNamespace given) {s t : State} {c : Value}
    (h : (compileNew m settings text given).ends s = some (.ok c, t)) :
    ∃ source f log compilers, compileResult settings text = .ok (source, f) ∧
      c = .compiled (s.serial + 1) source (compiledFunction s f) ∧
      t = { compiledState s given with log, compilers } := by
  by_cases hsize : settings.cacheSize < maxCapacity
  · obtain ⟨log, compilers, hends⟩ := ends_compileNew m hsize text hgiven s
    rw [hends] at h
    cases hresult : compileResult settings text with
    | error e =>
      rw [hresult] at h
      cases h
    | ok found =>
      obtain ⟨source, f⟩ := found
      rw [hresult] at h
      cases h
      exact ⟨source, f, log, compilers, rfl, rfl, rfl⟩
  · rw [compileNew, Run.ends_bind_of_error (ends_newCompiler_overflow (Nat.not_lt.1 hsize) s)] at h
    cases h

/-! ### Results -/

theorem sourceFunction_eq_ok {s : Source} {f : List String × Expr}
    (h : sourceFunction s = .ok f) :
    ∃ e, parseBody s = .ok e ∧ f = (s.parameters, stageBody s e) ∧
      isFunction s.parameters (stageBody s e) = true := by
  unfold sourceFunction at h
  cases hbody : parseBody s with
  | error fault =>
    rw [hbody] at h
    cases h
  | ok e =>
    rw [hbody] at h
    simp only [bind, Except.bind] at h
    split at h
    · next hfunction =>
      cases h
      exact ⟨e, rfl, rfl, hfunction⟩
    · cases h

/-- Blanks around a body do not matter. -/
theorem bodyText_trimStart (body : List Char) :
    bodyText (String.ofList (trimStart body)) = bodyText (String.ofList body) := by
  rw [bodyText, bodyText, String.toList_ofList, String.toList_ofList, Source.trim_trimStart]

theorem read?_of_parseBody {s : Source} {e : Expr} (h : parseBody s = .ok e) :
    Expr.read? (bodyText s.finalBody) = some e := by
  unfold parseBody at h
  split at h
  · cases h
  · split at h
    · next hread =>
      cases h
      exact hread
    · cases h

/-- A source that makes a function has no null character in its body, which is read as an expression
that stands as the body of a function behind the parameter lists. -/
theorem sourceResult_eq_ok {s : Source} {f : List String × Expr} (h : sourceResult s = .ok f) :
    hasNull s.finalBody.toList = false ∧ ∃ e, parseBody s = .ok e ∧
      f = (s.parameters, stageBody s e) ∧ isFunction s.parameters (stageBody s e) = true := by
  unfold sourceResult at h
  split at h
  · cases h
  · next hnull =>
    cases hfunction : sourceFunction s with
    | error fault =>
      rw [hfunction] at h
      cases h
    | ok g =>
      rw [hfunction] at h
      cases h
      exact ⟨Bool.eq_false_iff.2 hnull, sourceFunction_eq_ok hfunction⟩

theorem compileResult_of_read {settings : Settings} {text : String} {source : Source}
    (h : Source.read settings.operandName.toList settings.receiver.toList text = .ok source) :
    compileResult settings text = (sourceResult source).map fun f => (source, f) := by
  rw [compileResult, h]

theorem sourceResult_of_compileResult {settings : Settings} {text : String} {source : Source}
    {f : List String × Expr} (h : compileResult settings text = .ok (source, f)) :
    Source.read settings.operandName.toList settings.receiver.toList text = .ok source ∧
      sourceResult source = .ok f := by
  unfold compileResult at h
  cases hread : Source.read settings.operandName.toList settings.receiver.toList text with
  | error fault =>
    rw [hread] at h
    cases h
  | ok s =>
    rw [hread] at h
    cases hresult : sourceResult s with
    | error e =>
      simp only [hresult] at h
      cases h
    | ok g =>
      simp only [hresult] at h
      cases h
      exact ⟨rfl, hresult⟩

/-- A text that is compiled well is read as a source, and its body as an expression. -/
theorem compileResult_eq_ok {settings : Settings} {text : String} {source : Source}
    {f : List String × Expr} (h : compileResult settings text = .ok (source, f)) :
    Source.read settings.operandName.toList settings.receiver.toList text = .ok source ∧
      ∃ e, Expr.read? (bodyText source.finalBody) = some e ∧
        f = (source.parameters, stageBody source e) := by
  obtain ⟨hread, hresult⟩ := sourceResult_of_compileResult h
  obtain ⟨-, e, hbody, rfl, -⟩ := sourceResult_eq_ok hresult
  exact ⟨hread, e, read?_of_parseBody hbody, rfl⟩

end LambdaText
