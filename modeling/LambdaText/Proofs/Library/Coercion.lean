import LambdaText.Proofs.Detached.Operations
import LambdaText.Proofs.Eval.SharedCompiler
import LambdaText.Proofs.Eval.Templates
import LambdaText.Proofs.Source.Acceptance

/-!
# What values are made into

A value that stands for a function is made into a callable: a text is compiled as the settings of
the shared compiler say, a callable stays as it is. What a text is made into is determined by the
text and these settings, but for its identity; nothing is called on the way, and nothing that was
there before changes but the log and the compilers.
-/

namespace LambdaText

open LambdaText.Code LambdaText.Function LambdaText.Log LambdaText.Text

theorem globalsFor_none (m m' : Machine) : globalsFor m .none = globalsFor m' .none := by
  have htruth : truth .none = pure false := rfl
  simp only [globalsFor, htruth, pure_bind, Bool.false_eq_true, if_false]

/-- Nothing is called and no iterator is advanced when a value is made callable. -/
theorem coerce_machine (m m' : Machine) (v : Value) : coerce m v = coerce m' v := by
  have htext (settings : Settings) (text : Value) :
      compileText m settings text .none = compileText m' settings text .none := by
    unfold compileText
    rw [globalsFor_none m m']
  have hblock (text : Value) : compileBlock m text .none = compileBlock m' text .none := by
    unfold compileBlock
    rw [globalsFor_none m m']
  have hkept (address : Nat) (cache : Cache String Value) (text : Value) :
      compileKept m address cache text = compileKept m' address cache text := by
    unfold compileKept
    simp only [htext]
  unfold coerce asCallable compileWith
  simp only [htext, hblock, hkept]

theorem sound_of_coerce {m : Machine} {v : Value} {s t : State} {result : Except Value Value}
    (hs : s.Sound) (h : (coerce m v).ends s = some (result, t)) : t.Sound := by
  rw [coerce_machine m machine] at h
  exact Run.Sound.sound inferInstance hs h

/-! ### Recipes -/

/-- What a text that is an expression becomes, but for its identity: an error, or a source and the
code of its function. -/
def expressionRecipe (settings : Settings) (text : String) : Except Value (Source × Routine) :=
  (compileResult settings text).map fun found =>
    (found.1, lambdaRoutine (found.2.1.map Parameter.plain) found.2.2)

/-- What a text that is a block becomes, but for its identity. -/
def blockRecipe (text : String) : Except Value (Source × Routine) :=
  (blockResult text).map fun code => (.ofBlock text, code)

/-- What a text becomes where the shared compiler has these settings, or cannot be made. -/
def textRecipe (settings : Except Value Settings) (text : String) :
    Except Value (Source × Routine) := do
  if Source.hasReturn text.toList then
    let _ ← settings
    blockRecipe text
  else expressionRecipe (← settings) text

/-- Whether something was made by a recipe: it is the error of the recipe, or a compiled text with
its source and its code, under whatever numbers. -/
inductive MadeBy : Except Value (Source × Routine) → Except Value Value → Prop
  | error (e : Value) : MadeBy (.error e) (.error e)
  | compiled (source : Source) (code : Routine) (k l g : Nat) :
    MadeBy (.ok (source, code))
      (.ok (.compiled k source (.function l code ⟨[], g, ""⟩ code.name [])))

theorem MadeBy.error_eq {recipe : Except Value (Source × Routine)} {e e' : Value}
    (h : MadeBy recipe (.error e)) (h' : MadeBy recipe (.error e')) : e = e' := by
  cases h
  cases h'
  rfl

theorem MadeBy.ok {recipe : Except Value (Source × Routine)} {v : Value} {e : Value}
    (h : MadeBy recipe (.ok v)) : ¬ MadeBy recipe (.error e) := by
  cases h
  rintro ⟨⟩

theorem MadeBy.isCallable {recipe : Except Value (Source × Routine)} {v : Value}
    (h : MadeBy recipe (.ok v)) : v.isCallable = true := by
  cases h
  rfl

theorem IsCompiledFrom.madeBy {settings : Settings} {text : String} {v : Value}
    (h : IsCompiledFrom settings text v) : MadeBy (expressionRecipe settings text) (.ok v) := by
  obtain ⟨source, names, body, k, l, g, hresult, rfl⟩ := h
  rw [expressionRecipe, hresult]
  exact .compiled ..

theorem madeBy_compiledAnew (settings : Settings) (s : State) (text : String) :
    MadeBy (expressionRecipe settings text) (compiledAnew settings s text) := by
  unfold expressionRecipe compiledAnew
  cases compileResult settings text with
  | error e => exact .error e
  | ok found => exact .compiled ..

/-! ### Global names -/

/-- The global names that a text has when it has just been compiled: the built-in ones, and for a
block its own. -/
def firstNames (source : Source) (f : Value) : Array (Value × Value) :=
  if source.form = .statement then addEntry builtinEntries (.text blockName) f else builtinEntries

namespace State

/-- Whether a compiled text has the global names that it was compiled with. -/
def HasFirstNames (s : State) : Value → Prop
  | .compiled _ source (.function l code scope name defaults) =>
    s.cells[scope.globals]? = some (.dict (firstNames source (.function l code scope name defaults)))
  | _ => True

/-- Whether a compiler keeps a text and what it was compiled to. -/
def Keeps (s : State) (entry : String × Value) : Prop :=
  ∃ c ∈ s.compilers, ∃ cache ∈ c.cache, entry ∈ cache.entries

/-- Whether all texts that compilers keep have the global names that they were compiled with, as they
do until a call changes them. -/
def KeepsFirstNames (s : State) : Prop := ∀ entry, s.Keeps entry → s.HasFirstNames entry.2

theorem HasFirstNames.mono {s t : State} {v : Value} (h : s.HasFirstNames v)
    (hcells : ∃ more, t.cells = s.cells ++ more) : t.HasFirstNames v := by
  obtain ⟨more, hmore⟩ := hcells
  unfold HasFirstNames at h ⊢
  split at h
  · rw [hmore, Array.getElem?_append_left (Array.getElem?_eq_some_iff.1 h).1, h]
  · trivial

theorem KeepsFirstNames.mono {s t : State} (h : s.KeepsFirstNames)
    (hcells : ∃ more, t.cells = s.cells ++ more)
    (hkept : ∀ entry, t.Keeps entry → s.Keeps entry ∨ t.HasFirstNames entry.2) :
    t.KeepsFirstNames := fun entry hentry =>
  (hkept entry hentry).elim (fun hold => (h entry hold).mono hcells) id

end State

theorem form_read {operandName receiver : List Char} {text : String} {source : Source}
    (h : Source.read operandName receiver text = .ok source) : source.form ≠ .statement := by
  unfold Source.read at h
  split at h
  · rw [Source.readChain_arrow h source source.self_mem_stages]
    exact Form.noConfusion
  · cases h
    unfold Source.readPlain
    dsimp only
    split_ifs <;> exact Form.noConfusion

theorem hasFirstNames_compiledAnew {settings : Settings} {s t : State} {text : String} {v : Value}
    (hv : compiledAnew settings s text = .ok v)
    (hcells : t.cells = cellsAnew settings s text .none) : t.HasFirstNames v := by
  unfold compiledAnew at hv
  unfold cellsAnew at hcells
  cases hresult : compileResult settings text with
  | error e =>
    rw [hresult] at hv
    cases hv
  | ok found =>
    rw [hresult] at hv hcells
    cases hv
    have hform := form_read (sourceResult_of_compileResult hresult).1
    change t.cells[s.cells.size]? = some (.dict (firstNames found.1 _))
    rw [firstNames, if_neg hform, hcells]
    exact Array.getElem?_push_size

theorem madeBy_blockEnd (s : State) (text : String) (log : Array Record) :
    ∃ result t, blockEnd s text .none log (blockResult text) = some (result, t) ∧
      OnlyCompiled s t ∧ MadeBy (blockRecipe text) result ∧ t.compilers = s.compilers ∧
      ∀ v, result = .ok v → t.HasFirstNames v := by
  unfold blockRecipe
  cases hresult : blockResult text with
  | error e => exact ⟨_, _, rfl, .logged s log, .error e, rfl, fun v hv => by cases hv⟩
  | ok code =>
    obtain ⟨result, t, hend, honly⟩ := exists_blockEnd s text .none log (.ok code)
    refine ⟨result, t, hend, honly, ?_⟩
    cases hend
    refine ⟨?_, rfl, fun v hv => ?_⟩
    · rw [compiledBlock, String.empty_append]
      exact .compiled ..
    · cases hv
      exact Array.getElem?_push_size

/-! ### Compilers -/

theorem mem_of_find {cache cache' : Cache String Value} {text : String} {v : Value}
    (h : cache.find text = (some v, cache')) : (text, v) ∈ cache.entries := by
  unfold Cache.find at h
  split at h
  · next entry hentry =>
    obtain rfl : entry.1 = text := by simpa using List.find?_some hentry
    cases h
    exact List.mem_of_find?_eq_some hentry
  · cases h

def State.settingsAt (s : State) (address : Nat) : Settings :=
  (s.compilers[address]?.map Compiler.settings).getD {}

/-- A cache that is replaced keeps what it kept, unless a text is stored. -/
theorem State.keeps_withCache {s t : State} {address : Nat} {cache : Cache String Value}
    (ht : t.compilers = withCache s.compilers address cache) {entry : String × Value}
    (h : t.Keeps entry) : s.Keeps entry ∨ entry ∈ cache.entries := by
  obtain ⟨c, hc, kept, hkept, hentry⟩ := h
  rw [ht] at hc
  rcases mem_withCache hc with hold | ⟨c', -, rfl⟩
  · exact .inl ⟨c, hold, kept, hkept, hentry⟩
  · cases hkept
    exact .inr hentry

/-- After a text has been compiled anew, all kept texts still have first names, whether the new one is
kept or not. -/
theorem keepsFirstNames_compiledAnew {settings : Settings} {s t : State} {text : String}
    (hs : s.KeepsFirstNames) (honly : OnlyCompiled s t)
    (hcells : t.cells = cellsAnew settings s text .none)
    (hkept : ∀ entry, t.Keeps entry →
      s.Keeps entry ∨ compiledAnew settings s text = .ok entry.2) : t.KeepsFirstNames :=
  hs.mono honly.cells fun entry hentry =>
    (hkept entry hentry).imp_right fun hv => hasFirstNames_compiledAnew hv hcells

/-- What a compiler keeps after a text was not found. -/
theorem keeps_missedCompilers {settings : Settings} {s t : State} {address : Nat}
    {cache missed : Cache String Value} {text : String}
    (hc : s.compilers[address]? = some ⟨settings, some cache⟩)
    (hfind : cache.find text = (none, missed))
    (ht : t.compilers = missedCompilers s address missed text (compileResult settings text))
    {entry : String × Value} (h : t.Keeps entry) :
    s.Keeps entry ∨ compiledAnew settings s text = .ok entry.2 := by
  have hold (hentry : entry ∈ missed.entries) : s.Keeps entry :=
    ⟨_, Array.mem_of_getElem? hc, cache, rfl, entries_of_find_eq_none hfind ▸ hentry⟩
  unfold compiledAnew
  cases hresult : compileResult settings text with
  | error e =>
    rw [hresult] at ht
    exact .inl ((State.keeps_withCache ht h).elim id hold)
  | ok found =>
    rw [hresult] at ht
    rcases State.keeps_withCache ht h with hkept | hentry
    · exact .inl hkept
    · rcases mem_entries_store hentry with rfl | hentry
      · exact .inr rfl
      · exact .inl (hold hentry)

/-- What a compiler gives for a text, kept or new, is made by the recipe of its settings, and has the
names it was compiled with, if kept texts have. -/
theorem ends_compileWith_made (m : Machine) (address : Nat) (text : String) {s : State}
    (hs : s.Sound) : ∃ result t,
      (compileWith m address (.text text) .none).ends s = some (result, t) ∧
        OnlyCompiled s t ∧ MadeBy (expressionRecipe (s.settingsAt address) text) result ∧
        (s.KeepsFirstNames → t.KeepsFirstNames ∧ ∀ v, result = .ok v → t.HasFirstNames v) := by
  have hgiven : IsNamespace .none := trivial
  unfold State.settingsAt
  cases hc : s.compilers[address]? with
  | none =>
    have hdirect : (compileWith m address (.text text) .none).ends s =
        (compileText m {} (.text text) .none).ends s := by
      rw [compileWith, Run.ends_bind_of_ok (ends_compilerCache address s), hc]
      change (compilerSettings address >>= fun found => _).ends s = _
      rw [Run.ends_bind_of_ok (ends_compilerSettings address s), hc]
      rfl
    obtain ⟨log, hend⟩ := ends_compileText m {} text hgiven s
    obtain ⟨t, ht, hcompilers, honly, hcells, -⟩ := exists_compilingEnd {} s .none log rfl text
    exact ⟨_, t, hdirect.trans (hend.trans ht), honly, madeBy_compiledAnew {} s text, fun hnames =>
      ⟨hnames.mono honly.cells fun entry h => .inl (by rwa [State.Keeps, hcompilers] at h),
        fun v hv => hasFirstNames_compiledAnew hv hcells⟩⟩
  | some c =>
    obtain ⟨settings, cache⟩ := c
    cases cache with
    | none =>
      obtain ⟨log, hend⟩ := ends_compileWith_apart m text hgiven (.inr rfl) hc
      obtain ⟨t, ht, hcompilers, honly, hcells, -⟩ :=
        exists_compilingEnd settings s .none log rfl text
      exact ⟨_, t, hend.trans ht, honly, madeBy_compiledAnew settings s text, fun hnames =>
        ⟨hnames.mono honly.cells fun entry h => .inl (by rwa [State.Keeps, hcompilers] at h),
          fun v hv => hasFirstNames_compiledAnew hv hcells⟩⟩
    | some cache =>
      rw [ends_compileWith_kept m _ hc]
      cases hfind : cache.find text with
      | mk found cache' =>
        cases found with
        | none =>
          obtain ⟨log, hend⟩ := ends_compileKept_missed m hfind hc
          obtain ⟨t, ht, hcompilers, honly, hcells, -⟩ := exists_compilingEnd settings s .none log
            (map_settings_missedCompilers s address cache' text (compileResult settings text)) text
          exact ⟨_, t, hend.trans ht, honly, madeBy_compiledAnew settings s text, fun hnames =>
            ⟨keepsFirstNames_compiledAnew hnames honly hcells fun entry =>
              keeps_missedCompilers hc hfind hcompilers,
              fun v hv => hasFirstNames_compiledAnew hv hcells⟩⟩
        | some v =>
          have hkept : ∀ entry ∈ cache.entries, s.Keeps entry := fun entry hentry =>
            ⟨_, Array.mem_of_getElem? hc, cache, rfl, hentry⟩
          have honly := OnlyCompiled.withCache s s.log address cache'
          refine ⟨_, _, ends_compileKept_found m address hfind s, honly,
            (hs _ (Array.mem_of_getElem? hc) cache rfl (text, v) (mem_of_find hfind)).madeBy,
            fun hnames => ⟨hnames.mono honly.cells fun entry h => .inl ?_, ?_⟩⟩
          · exact (State.keeps_withCache rfl h).elim id fun hentry =>
              hkept entry (mem_entries_of_find hfind hentry)
          · rintro _ ⟨⟩
            exact hnames _ (hkept _ (mem_of_find hfind))

/-! ### The shared compiler -/

/-- The settings that the shared compiler has, or would have if it were made now. -/
def State.sharedSettings (s : State) : Except Value Settings :=
  match s.shared with
  | none => LambdaText.sharedSettings s.environment
  | some address => .ok (s.settingsAt address)

/-- What making values callable leaves as it was: cells, serial numbers and compilers are added,
and else only the log, what compilers keep and the choice of the shared compiler change. The
settings of the shared compiler stay what they were, or would have been, and texts that are kept have
the names that they were compiled with, if they had them before. -/
structure OnlyMade (s t : State) : Prop where
  cells : ∃ more, t.cells = s.cells ++ more
  settings : t.sharedSettings = s.sharedSettings
  names : s.KeepsFirstNames → t.KeepsFirstNames
  others : t = { s with
    cells := t.cells, serial := t.serial, log := t.log, compilers := t.compilers
    shared := t.shared }

theorem OnlyCompiled.onlyMade {s t : State} (h : OnlyCompiled s t)
    (hnames : s.KeepsFirstNames → t.KeepsFirstNames) : OnlyMade s t where
  cells := h.cells
  names := hnames
  settings := by
    have hat (address : Nat) : t.settingsAt address = s.settingsAt address := by
      rw [State.settingsAt, State.settingsAt, ← Array.getElem?_map, ← Array.getElem?_map,
        h.settings]
    rw [State.sharedSettings, State.sharedSettings, h.others]
    cases s.shared with
    | none => rfl
    | some address => exact congrArg Except.ok (hat address)
  others := by
    rw [h.others]

theorem OnlyMade.logged (s : State) (log : Array Record) : OnlyMade s { s with log } :=
  (OnlyCompiled.logged s log).onlyMade id

theorem OnlyMade.refl (s : State) : OnlyMade s s := .logged s s.log

theorem OnlyMade.trans {s t u : State} (h : OnlyMade s t) (h' : OnlyMade t u) : OnlyMade s u := by
  obtain ⟨⟨more, hmore⟩, hsettings, hnames, hothers⟩ := h
  obtain ⟨⟨more', hmore'⟩, hsettings', hnames', hothers'⟩ := h'
  refine ⟨⟨more ++ more', by rw [hmore', hmore, Array.append_assoc]⟩, hsettings'.trans hsettings,
    hnames' ∘ hnames, ?_⟩
  rw [hothers', hothers]

/-- A new compiler keeps nothing. -/
theorem entries_of_compiler {settings : Settings} {cache : Cache String Value}
    (h : cache ∈ settings.compiler.cache) : cache.entries = [] := by
  unfold Settings.compiler at h
  split at h <;> cases h
  rfl

theorem ends_sharedCompiler (s : State) : ∃ result t,
    LambdaText.sharedCompiler.ends s = some (result, t) ∧ OnlyMade s t ∧
      result.map t.settingsAt = s.sharedSettings := by
  cases hshared : s.shared with
  | some address =>
    refine ⟨.ok address, s, ends_sharedCompiler_some hshared, .refl s, ?_⟩
    rw [State.sharedSettings, hshared]
    rfl
  | none =>
    obtain ⟨log, hend⟩ := ends_sharedCompiler_none hshared
    have hnow : s.sharedSettings = LambdaText.sharedSettings s.environment := by
      rw [State.sharedSettings, hshared]
    cases hsettings : LambdaText.sharedSettings s.environment with
    | error e =>
      rw [hsettings] at hend hnow
      exact ⟨_, _, hend, .logged s log, hnow.symm⟩
    | ok settings =>
      rw [hsettings] at hend hnow
      have hat : (s.compilers.push settings.compiler)[s.compilers.size]?.map Compiler.settings =
          some settings := by
        rw [Array.getElem?_push_size]
        rfl
      refine ⟨_, _, hend, ⟨⟨#[], by simp⟩, ?_, fun hnames => ?_, rfl⟩, ?_⟩
      · rw [hnow]
        simp only [State.sharedSettings, State.settingsAt, hat, Option.getD_some]
      · refine hnames.mono ⟨#[], by simp⟩ fun entry ⟨c, hc, cache, hcache, hentry⟩ => .inl ?_
        rcases Array.mem_push.1 hc with hc | rfl
        · exact ⟨c, hc, cache, hcache, hentry⟩
        · rw [entries_of_compiler hcache] at hentry
          cases hentry
      · rw [hnow]
        simp only [Except.map, State.settingsAt, hat, Option.getD_some]

/-! ### Making one value callable -/

/-- What a text is made into, at whatever time. -/
theorem ends_coerce_text (m : Machine) (text : String) {s : State} (hs : s.Sound) :
    ∃ result t, (coerce m (.text text)).ends s = some (result, t) ∧ OnlyMade s t ∧
      MadeBy (textRecipe s.sharedSettings text) result ∧
      (s.KeepsFirstNames → ∀ v, result = .ok v → t.HasFirstNames v) := by
  have hcoerce : coerce m (.text text) = LambdaText.sharedCompiler >>= fun address =>
      if Source.hasReturn text.toList then compileBlock m (.text text) .none
      else compileWith m address (.text text) .none := rfl
  obtain ⟨found, t, hshared, honly, hsettings⟩ := ends_sharedCompiler s
  unfold textRecipe
  rw [hcoerce, ← hsettings]
  cases found with
  | error e =>
    refine ⟨_, _, Run.ends_bind_of_error hshared _, honly, ?_, fun _ v hv => by cases hv⟩
    split <;> exact .error e
  | ok address =>
    rw [Run.ends_bind_of_ok hshared]
    split
    · obtain ⟨log, hend⟩ := ends_compileBlock m text (show IsNamespace .none from trivial) t
      obtain ⟨result, u, hblock, honly', hmade, hcompilers, hfirst⟩ := madeBy_blockEnd t text log
      have hkept (hnames : t.KeepsFirstNames) : u.KeepsFirstNames :=
        hnames.mono honly'.cells fun entry h => .inl (by rwa [State.Keeps, hcompilers] at h)
      exact ⟨result, u, hend.trans hblock, honly.trans (honly'.onlyMade hkept), hmade,
        fun _ => hfirst⟩
    · obtain ⟨result, u, hend, honly', hmade, hfirst⟩ :=
        ends_compileWith_made m address text (keepsSound_sharedCompiler hs hshared)
      exact ⟨result, u, hend, honly.trans (honly'.onlyMade fun hnames => (hfirst hnames).1), hmade,
        fun hnames => (hfirst (honly.names hnames)).2⟩

/-- What is neither a text nor callable is refused. -/
theorem ends_coerce_refused (m : Machine) {v : Value} (htext : ∀ text, v ≠ .text text)
    (hv : v.isCallable = false) (s : State) :
    ∃ e log, (coerce m v).ends s = some (.error e, { s with log }) ∧
      (shown v >>= fun text => throw (faultError (.notCallable v.kindName text)) :
        Run Value).ends s = some (.error e, s) := by
  obtain ⟨look, hlook⟩ := reads_shown v
  have hother : coerce m v = refuse v := by
    cases v with
    | text text => exact absurd rfl (htext text)
    | _ => first | rfl | cases hv
  rw [hother, ends_refuse]
  cases hshown : look s.cells with
  | error e =>
    exact ⟨e, _, Run.ends_bind_of_error (by rw [hlook, hshown]) _,
      Run.ends_bind_of_error (by rw [hlook, hshown]) _⟩
  | ok text =>
    exact ⟨_, _, Run.ends_bind_of_ok (by rw [hlook, hshown]) _,
      Run.ends_bind_of_ok (by rw [hlook, hshown]) _⟩

/-- Making a value callable always ends. -/
theorem ends_coerce (m : Machine) (v : Value) {s : State} (hs : s.Sound) :
    ∃ result t, (coerce m v).ends s = some (result, t) ∧ OnlyMade s t := by
  by_cases htext : ∃ text, v = .text text
  · obtain ⟨text, rfl⟩ := htext
    obtain ⟨result, t, hend, honly, -, -⟩ := ends_coerce_text m text hs
    exact ⟨result, t, hend, honly⟩
  · cases hv : v.isCallable with
    | true => exact ⟨_, _, coerce_callable hv m s, .refl s⟩
    | false =>
      obtain ⟨e, log, hend, -⟩ := ends_coerce_refused m (not_exists.1 htext) hv s
      exact ⟨_, _, hend, .logged s log⟩

theorem onlyMade_of_coerce {m : Machine} {v : Value} {s t : State} {result : Except Value Value}
    (hs : s.Sound) (h : (coerce m v).ends s = some (result, t)) : OnlyMade s t := by
  obtain ⟨result', t', hend, honly⟩ := ends_coerce m v hs
  rw [hend] at h
  cases h
  exact honly

theorem callable_of_coerce {m : Machine} {v f : Value} {s t : State} (hs : s.Sound)
    (h : (coerce m v).ends s = some (.ok f, t)) : f.isCallable = true := by
  by_cases htext : ∃ text, v = .text text
  · obtain ⟨text, rfl⟩ := htext
    obtain ⟨result, t', hend, -, hmade, -⟩ := ends_coerce_text m text hs
    rw [hend] at h
    cases h
    exact hmade.isCallable
  · cases hv : v.isCallable with
    | true =>
      rw [coerce_callable hv] at h
      cases h
      exact hv
    | false =>
      obtain ⟨e, log, hend, -⟩ := ends_coerce_refused m (not_exists.1 htext) hv s
      rw [hend] at h
      cases h

/-- What is made callable stays as it is when it is made callable again. -/
theorem coerce_coerce {m : Machine} {v f : Value} {s t : State} (hs : s.Sound)
    (h : (coerce m v).ends s = some (.ok f, t)) (m' : Machine) : coerce m' f = pure f :=
  coerce_eq_pure (callable_of_coerce hs h) m'

end LambdaText
