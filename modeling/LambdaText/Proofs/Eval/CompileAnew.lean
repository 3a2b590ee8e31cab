import LambdaText.Proofs.Eval.CompileRuns
import LambdaText.Proofs.Eval.Stages

/-!
# What a cache does not change

Every call of a compiler gives what a new compiler without a cache gives: at the call itself, or,
for a text that is found, at an earlier call for the same text. Compiling at different times makes
functions with the same code over the same global names, and such functions answer every call alike.
-/

namespace LambdaText

open LambdaText.Code LambdaText.Function LambdaText.Log LambdaText.Text

def Settings.uncached (settings : Settings) : Settings := { settings with cacheSize := 0 }

theorem ends_compileNew_uncached (m : Machine) (settings : Settings) (text : String) {given : Value}
    (hgiven : IsNamespace given) (s : State) :
    ∃ t, (compileNew m settings.uncached text given).ends s =
        some (compiledAnew settings s text, t) ∧ t.cells = cellsAnew settings s text given := by
  obtain ⟨log, compilers, hend⟩ := ends_compileNew m
    (show settings.uncached.cacheSize < maxCapacity from Nat.pow_pos (by decide)) text hgiven s
  have hresult : compileResult settings.uncached text = compileResult settings text := rfl
  rw [hend, hresult, compiledAnew, cellsAnew]
  cases compileResult settings text <;> exact ⟨_, rfl, rfl⟩

/-! ### Kept or made anew -/

/-- What a compiler has after a run: no cache, or one that accounts for the run. -/
def Keeps (settings : Settings) (calls : List (String × Value))
    (results : List (Except Value Value)) : Option (Cache String Value) → Prop
  | none => settings.cacheSize = 0
  | some cache => 0 < settings.cacheSize ∧ Accounts settings calls results cache

theorem keeps_nil (settings : Settings) :
    ∃ cache, settings.compiler = ⟨settings, cache⟩ ∧ Keeps settings [] [] cache := by
  unfold Settings.compiler
  split
  · next hsize => exact ⟨none, rfl, hsize⟩
  · next hsize =>
    refine ⟨some { capacity := settings.cacheSize }, rfl, Nat.pos_of_ne_zero hsize, rfl, ?_, rfl⟩
    exact List.take_nil.symm

/-- A text is found, or it is compiled anew. -/
theorem ends_compileWith_keeps (m : Machine) {settings : Settings} {address : Nat}
    {cache : Option (Cache String Value)} {calls : List (String × Value)}
    {results : List (Except Value Value)} (hlength : results.length = calls.length) (text : String)
    {given : Value} (hgiven : IsNamespace given) {s : State}
    (hs : s.compilers[address]? = some ⟨settings, cache⟩)
    (hkeeps : Keeps settings calls results cache) :
    ∃ result t cache', (compileWith m address (.text text) given).ends s = some (result, t) ∧
      t.compilers[address]? = some ⟨settings, cache'⟩ ∧
      Keeps settings (calls ++ [(text, given)]) (results ++ [result]) cache' ∧ OnlyCompiled s t ∧
      (given = .none ∧ (∃ v, result = .ok v ∧ (text, v) ∈ usesOf calls results) ∨
        result = compiledAnew settings s text ∧ t.cells = cellsAnew settings s text given) := by
  cases cache with
  | none =>
    obtain ⟨log, hend⟩ := ends_compileWith_apart m text hgiven (.inr rfl) hs
    obtain ⟨t, hend', hcompilers, honly, hcells, -⟩ :=
      exists_compilingEnd settings s given log rfl text
    exact ⟨_, t, none, hend.trans hend', hcompilers ▸ hs, hkeeps, honly, .inr ⟨rfl, hcells⟩⟩
  | some cache =>
    obtain ⟨hpos, haccounts⟩ := hkeeps
    obtain ⟨result, t, cache', hend, ht, honly, hstep, hresult⟩ :=
      ends_compileWith_step m text hgiven hs haccounts.holds haccounts.capacity hpos
    exact ⟨result, t, some cache', hend, ht, ⟨hpos, haccounts.concat hlength hstep⟩, honly,
      hresult.imp_right fun h => ⟨h.1, h.2.1⟩⟩

/-! ### Whole runs -/

/-- Whether a result of a call after a run that has come to this state is what a new compiler
without a cache gives, after so many calls of the run, and its function has the global names that it
had then. -/
def MadeAt (m : Machine) (settings : Settings) (calls : List (String × Value)) (s t : State)
    (text : String) (given : Value) (result : Except Value Value) (i : Nat) : Prop :=
  ∃ earlier u u', (compileRun m settings (calls.take i)).ends s = some (.ok earlier, u) ∧
    (compileNew m settings.uncached text given).ends u = some (result, u') ∧
    u'.cells = cellsAnew settings u text given ∧ ∃ more, t.cells = u'.cells ++ more

theorem MadeAt.mono {m : Machine} {settings : Settings} {calls more : List (String × Value)}
    {s t u : State} {text : String} {given : Value} {result : Except Value Value} {i : Nat}
    (h : MadeAt m settings calls s t text given result i) (hi : i ≤ calls.length)
    (honly : OnlyCompiled t u) : MadeAt m settings (calls ++ more) s u text given result i := by
  obtain ⟨earlier, w, w', hrun, hnew, hanew, cells, hcells⟩ := h
  obtain ⟨cells', hcells'⟩ := honly.cells
  refine ⟨earlier, w, w', ?_, hnew, hanew, cells ++ cells', ?_⟩
  · rwa [List.take_append_of_le_length hi]
  · rw [hcells', hcells, Array.append_assoc]

/-- Every result of a run was made anew, at the call itself or at an earlier call for the same text
without a namespace. -/
theorem ends_compileRun (m : Machine) {settings : Settings}
    (hsize : settings.cacheSize < maxCapacity) {calls : List (String × Value)}
    (hcalls : ∀ call ∈ calls, IsNamespace call.2) (s : State) :
    ∃ results t cache, (compileRun m settings calls).ends s = some (.ok results, t) ∧
      results.length = calls.length ∧
      t.compilers[s.compilers.size]? = some ⟨settings, cache⟩ ∧
      Keeps settings calls results cache ∧
      ∀ j text given, calls[j]? = some (text, given) → ∃ result, results[j]? = some result ∧
        ∃ i ≤ j, (given ≠ .none → i = j) ∧ calls[i]? = some (text, given) ∧
          MadeAt m settings calls s t text given result i := by
  obtain ⟨log, hnew⟩ := ends_newCompiler hsize s
  induction calls using List.reverseRecOn with
  | nil =>
    obtain ⟨cache, hcache, hkeeps⟩ := keeps_nil settings
    refine ⟨[], _, cache, Run.ends_bind_of_ok hnew _, rfl, ?_, hkeeps, fun j text given h => ?_⟩
    · rw [← hcache]
      exact Array.getElem?_push_size
    · simp at h
  | append_singleton calls call ih =>
    obtain ⟨text, given⟩ := call
    obtain ⟨results, t, cache, hrun, hlength, ht, hkeeps, hmade⟩ :=
      ih fun call hcall => hcalls call (List.mem_append_left _ hcall)
    have hgiven : IsNamespace given := hcalls (text, given) (by simp)
    obtain ⟨result, u, cache', hend, hu, hkeeps', honly, hresult⟩ :=
      ends_compileWith_keeps m hlength text hgiven ht hkeeps
    have hrun' : (compileRun m settings (calls ++ [(text, given)])).ends s =
        some (.ok (results ++ [result]), u) := by
      rw [compileRun, Run.ends_bind_of_ok hnew] at hrun ⊢
      exact ends_compileInTurn_concat hrun hend
    refine ⟨results ++ [result], u, cache', hrun', by simp [hlength], hu, hkeeps',
      fun j text' given' hj => ?_⟩
    rcases Nat.lt_or_ge j calls.length with hlt | hge
    · rw [List.getElem?_append_left hlt] at hj
      obtain ⟨result', hresult', i, hi, hone, hcall, hat⟩ := hmade j text' given' hj
      refine ⟨result', ?_, i, hi, hone, ?_, hat.mono (by omega) honly⟩
      · rw [List.getElem?_append_left (by omega), hresult']
      · rw [List.getElem?_append_left (by omega), hcall]
    · obtain rfl : j = calls.length := by
        have := (List.getElem?_eq_some_iff.1 hj).1
        rw [List.length_append, List.length_singleton] at this
        omega
      rw [List.getElem?_concat_length, Option.some.injEq, Prod.mk.injEq] at hj
      obtain ⟨rfl, rfl⟩ := hj
      refine ⟨result, by rw [← hlength, List.getElem?_concat_length], ?_⟩
      rcases hresult with ⟨rfl, v, rfl, huse⟩ | ⟨rfl, hcells⟩
      · -- What is found was given by an earlier call, where the claim holds already.
        obtain ⟨k, hk, hv⟩ := exists_call_of_mem_usesOf huse
        obtain ⟨result', hresult', i, hi, -, hcall, hat⟩ := hmade k text .none hk
        obtain rfl := Option.some.inj (hresult'.symm.trans hv)
        have hlt := (List.getElem?_eq_some_iff.1 hk).1
        refine ⟨i, by omega, fun h => absurd rfl h, ?_, hat.mono (by omega) honly⟩
        rw [List.getElem?_append_left (by omega), hcall]
      · obtain ⟨w, hanew, hwcells⟩ := ends_compileNew_uncached m settings text hgiven t
        refine ⟨calls.length, le_rfl, fun _ => rfl, List.getElem?_concat_length, results, t, w, ?_,
          hanew, hwcells, #[], by rw [hcells, hwcells, Array.append_empty]⟩
        rwa [List.take_left]

/-! ### Calls of what is compiled -/

/-- Whether a value in a state is the compiled text of a source, the function of which has this code
and these global names. -/
def IsCompiled (s : State) (source : Source) (code : Routine) (entries : Array (Value × Value))
    (v : Value) : Prop :=
  ∃ k l g, v = .compiled k source (.function l code ⟨[], g, ""⟩ "<lambda>" []) ∧
    s.cells[g]? = some (.dict entries)

/-- What a name means in the body of a function that stands in no other one: a name of its own has
the value it is bound to, if any; all others are global or built in. -/
def nameMeaning (code : Routine) (values : List (String × Value)) (entries : Array (Value × Value))
    (n : String) : Run Value :=
  if n ∈ code.locals then
    match values.lookup n with
    | some v => pure v
    | none => unboundLocal n
  else match entryValue? entries.toList n with
    | some v => pure v
    | none => lookupBuiltin entries n

/-- How two calls end, each in its own state, that come to the same: both refuse the arguments with
one error, or both evaluate one expression where every name means the same. -/
inductive SameCall (s t : State) (code : Routine) (entries : Array (Value × Value)) :
    Option (Except Value Value × State) → Option (Except Value Value × State) → Prop
  | refused (e : Value) : SameCall s t code entries (some (.error e, s)) (some (.error e, t))
  | evaluated {e : Expr} {scope scope' : Scope} {s' t' : State} (values : List (String × Value))
      (hbody : code.body = .value e) (hs : OnlyEntered s s') (ht : OnlyEntered t t')
      (hnames : ∀ n,
        (lookupName scope n).ends s' = (nameMeaning code values entries n).ends s' ∧
        (lookupName scope' n).ends t' = (nameMeaning code values entries n).ends t') :
      SameCall s t code entries
        ((enterBody (machineAt (topLevel - 2)) scope code e).ends s')
        ((enterBody (machineAt (topLevel - 2)) scope' code e).ends t')

/-- A keyword that a compiled text takes itself is refused. -/
def selfError : Value :=
  .error "TypeError"
    [.text "CompiledLambda.__call__() got multiple values for argument 'self'"] none

theorem ends_call_compiled (serial : Nat) (source : Source) (serial' : Nat) (code : Routine)
    (scope : Scope) (name : String) (positions : List Value) (keywords : List (String × Value))
    (s : State) :
    (machine.call (.compiled serial source (.function serial' code scope name [])) positions
        keywords).ends s =
      if (keywords.lookup "self").isSome then some (.error selfError, s)
      else (invoke (machineAt (topLevel - 2)) code scope name [] positions keywords).ends s := by
  obtain ⟨n, hn⟩ : ∃ n, topLevel = n + 2 := ⟨topLevel - 2, by decide⟩
  rw [machine, hn, Nat.add_sub_cancel]
  change (callStep (machineAt (n + 1)) (.compiled serial source _) positions keywords).ends s = _
  rw [callStep]
  split <;> rfl

theorem IsCompiled.ends_call_eq {s : State} {source : Source} {code : Routine}
    {entries : Array (Value × Value)} {v : Value} (h : IsCompiled s source code entries v)
    (positions : List Value) (keywords : List (String × Value)) :
    ∃ g, s.cells[g]? = some (.dict entries) ∧ (machine.call v positions keywords).ends s =
      if (keywords.lookup "self").isSome then some (.error selfError, s)
      else (invoke (machineAt (topLevel - 2)) code ⟨[], g, ""⟩ "<lambda>" [] positions
        keywords).ends s := by
  obtain ⟨k, l, g, rfl, hcell⟩ := h
  exact ⟨g, hcell, ends_call_compiled ..⟩

/-- A call of a compiled text fails if the arguments cannot be bound. -/
theorem IsCompiled.ends_call_refused {s : State} {source : Source} {code : Routine}
    {entries : Array (Value × Value)} {v a : Value} (h : IsCompiled s source code entries v)
    {positions : List Value} {keywords : List (String × Value)}
    (hself : (keywords.lookup "self").isSome = false)
    (hbind : (bindArguments "<lambda>" code.parameters [] positions keywords).ends s =
      some (.error a, s)) :
    (machine.call v positions keywords).ends s = some (.error a, s) := by
  obtain ⟨g, -, hcall⟩ := h.ends_call_eq positions keywords
  rw [hcall, hself, invoke, Run.ends_bind_of_error hbind]
  rfl

/-- A call of a compiled text evaluates the body where the arguments are bound. -/
theorem IsCompiled.ends_call {s : State} {source : Source} {code : Routine} {e : Expr}
    {entries : Array (Value × Value)} {v : Value} (h : IsCompiled s source code entries v)
    (hbody : code.body = .value e) (hyields : code.yields = e.usage.yields)
    (hglobals : code.globals = []) {positions : List Value}
    {keywords values : List (String × Value)} (hself : (keywords.lookup "self").isSome = false)
    (hbind : (bindArguments "<lambda>" code.parameters [] positions keywords).ends s =
      some (.ok values, s)) :
    ∃ scope t, (machine.call v positions keywords).ends s =
        (enterBody (machineAt (topLevel - 2)) scope code e).ends t ∧ OnlyEntered s t ∧
      ∀ n, (lookupName scope n).ends t = (nameMeaning code values entries n).ends t := by
  obtain ⟨g, hcell, hcall⟩ := h.ends_call_eq positions keywords
  rw [hself, ends_invoke_frame _ hbind, hyields, runBody, hbody] at hcall
  refine ⟨⟨[s.frames.size], g, "<lambda>" ++ ".<locals>."⟩,
    { s with frames := s.frames.push (frameOf code values) }, hcall, onlyEntered_push s _,
    fun n => ?_⟩
  rw [ends_lookupName_frameOf Array.getElem?_push_size hglobals, nameMeaning]
  split
  · cases values.lookup n <;> rfl
  · rw [@ends_lookupGlobal { s with frames := s.frames.push (frameOf code values) } g entries hcell]
    cases entryValue? entries.toList n <;> rfl

/-- Whether two values answer every call alike, in all states in which they are compiled texts of
one source whose functions have the same code and these global names. -/
def AnswerAlike (source : Source) (code : Routine) (entries : Array (Value × Value))
    (v w : Value) : Prop :=
  ∀ s t positions keywords,
    IsCompiled s source code entries v → IsCompiled t source code entries w →
    SameCall s t code entries ((machine.call v positions keywords).ends s)
      ((machine.call w positions keywords).ends t)

theorem answerAlike_plain (source : Source) (names : List String) (e : Expr)
    (entries : Array (Value × Value)) (v w : Value) :
    AnswerAlike source (lambdaRoutine (names.map Parameter.plain) e) entries v w := by
  intro s t positions keywords hv hw
  cases hself : (keywords.lookup "self").isSome with
  | true =>
    obtain ⟨g, -, hcall⟩ := hv.ends_call_eq positions keywords
    obtain ⟨g', -, hcall'⟩ := hw.ends_call_eq positions keywords
    rw [hcall, hcall', hself]
    exact .refused selfError
  | false =>
    obtain ⟨result, hbind⟩ := constant_bindArguments_plain "<lambda>" names positions keywords
    cases result with
    | error a =>
      rw [hv.ends_call_refused hself (hbind s), hw.ends_call_refused hself (hbind t)]
      exact .refused a
    | ok values =>
      obtain ⟨scope, s', hcall, hs, hnames⟩ := hv.ends_call rfl rfl rfl hself (hbind s)
      obtain ⟨scope', t', hcall', ht, hnames'⟩ := hw.ends_call rfl rfl rfl hself (hbind t)
      rw [hcall, hcall']
      exact .evaluated values rfl hs ht fun n => ⟨hnames n, hnames' n⟩

/-! ### Kept and anew -/

/-- Whether two results of compiling, each with the state it was left in, are the same but for their
identity: the same error, or compiled texts of one source whose functions have the same code and
these global names, and answer every call alike. -/
def SameCompiled (s t : State) (entries : Array (Value × Value)) :
    Except Value Value → Except Value Value → Prop
  | .ok v, .ok w => ∃ source code, IsCompiled s source code entries v ∧
    IsCompiled t source code entries w ∧ AnswerAlike source code entries v w
  | .error a, .error b => a = b
  | _, _ => False

/-- What is compiled anew in two states is the same but for its identity, if the namespace has the
same entries. -/
theorem sameCompiled_anew (settings : Settings) {s t u v : State} (text : String) {given : Value}
    {more more' : Array Cell} (hu : u.cells = cellsAnew settings s text given ++ more)
    (hv : v.cells = cellsAnew settings t text given ++ more')
    (hgiven : globalEntries s given = globalEntries t given) :
    SameCompiled u v (globalEntries t given) (compiledAnew settings s text)
      (compiledAnew settings t text) := by
  unfold compiledAnew
  unfold cellsAnew at hu hv
  cases hresult : compileResult settings text with
  | error e => rfl
  | ok found =>
    rw [hresult] at hu hv
    have hcell : ∀ (cells more : Array Cell) (c : Cell),
        (cells.push c ++ more)[cells.size]? = some c := fun cells more c => by
      rw [Array.getElem?_append_left (by simp), Array.getElem?_push_size]
    refine ⟨found.1, lambdaRoutine (found.2.1.map Parameter.plain) found.2.2,
      ⟨_, _, s.cells.size, rfl, ?_⟩, ⟨_, _, t.cells.size, rfl, ?_⟩, answerAlike_plain _ _ _ _ _ _⟩
    · rw [hu, ← hgiven]
      exact hcell _ _ _
    · rw [hv]
      exact hcell _ _ _

/-- A cache cannot be observed but for the identity of what it gives. Every call of a run gives
exactly what a new compiler without a cache gives, at the call itself or, without a namespace, at an
earlier call of the run for the same text, and the function still has the global names that it was
made with. Compared with a new compiler at the call itself, it is the same error, or the same source
with the same code over the same global names, which are the built-in module and the entries of its
own namespace; then both functions answer every call alike. -/
theorem compile_as_new {settings : Settings} (hsize : settings.cacheSize < maxCapacity)
    {calls : List (String × Value)} (hcalls : ∀ call ∈ calls, IsNamespace call.2) (s : State) :
    ∃ results t, (compileRun machine settings calls).ends s = some (.ok results, t) ∧
      results.length = calls.length ∧
      ∀ j text given, calls[j]? = some (text, given) → ∃ result, results[j]? = some result ∧
        (∃ i ≤ j, (given ≠ .none → i = j) ∧ calls[i]? = some (text, given) ∧
          MadeAt machine settings calls s t text given result i) ∧
        ∃ earlier u anew u',
          (compileRun machine settings (calls.take j)).ends s = some (.ok earlier, u) ∧
          (compileNew machine settings.uncached text given).ends u = some (anew, u') ∧
          SameCompiled t u' (globalEntries u given) result anew := by
  obtain ⟨results, t, -, hrun, hlength, -, -, hmade⟩ := ends_compileRun machine hsize hcalls s
  refine ⟨results, t, hrun, hlength, fun j text given hj => ?_⟩
  obtain ⟨result, hresult, i, hi, hone, hcall, hat⟩ := hmade j text given hj
  refine ⟨result, hresult, ⟨i, hi, hone, hcall, hat⟩, ?_⟩
  have hgiven : IsNamespace given := hcalls _ (List.mem_of_getElem? hj)
  obtain ⟨earlier, u, -, hbefore, -⟩ := ends_compileRun machine hsize
    (fun call hcall => hcalls call (List.mem_of_mem_take hcall) : ∀ call ∈ calls.take j, _) s
  obtain ⟨u', hanew, hcells⟩ := ends_compileNew_uncached machine settings text hgiven u
  refine ⟨earlier, u, _, u', hbefore, hanew, ?_⟩
  obtain ⟨earlier', w, w', hbefore', hanew', hcells', more, hmore⟩ := hat
  obtain ⟨w'', hanew'', -⟩ := ends_compileNew_uncached machine settings text hgiven w
  obtain ⟨rfl, -⟩ := Prod.mk.inj (Option.some.inj (hanew'.symm.trans hanew''))
  rw [hcells'] at hmore
  refine sameCompiled_anew settings text hmore (by rw [hcells, Array.append_empty]) ?_
  by_cases hplain : given = .none
  · subst hplain
    rfl
  · obtain rfl := hone hplain
    rw [hbefore', Option.some.injEq, Prod.mk.injEq] at hbefore
    rw [hbefore.2]

/-- A text that is compiled twice, with room for one. -/
theorem compile_as_new_repeated :
    let call : String × Value := (String.ofList ['x'], .none)
    ∃ results t result earlier u anew u',
      (compileRun machine { cacheSize := 1 } [call, call]).ends {} = some (.ok results, t) ∧
      results[1]? = some result ∧
      (compileRun machine { cacheSize := 1 } [call]).ends {} = some (.ok earlier, u) ∧
      (compileNew machine {} call.1 .none).ends u = some (anew, u') ∧
      SameCompiled t u' (globalEntries u .none) result anew := by
  intro call
  obtain ⟨results, t, hrun, -, hall⟩ := compile_as_new
    (show Settings.cacheSize { cacheSize := 1 } < maxCapacity by decide)
    (show ∀ other ∈ [call, call], IsNamespace other.2 by simp [call, IsNamespace]) {}
  obtain ⟨result, hresult, -, earlier, u, anew, u', hbefore, hnew, hsame⟩ := hall 1 _ _ rfl
  exact ⟨results, t, result, earlier, u, anew, u', hrun, hresult, hbefore, hnew, hsame⟩

end LambdaText
