import LambdaText.Proofs.Eval.Compiling
import LambdaText.Proofs.Function.Recency

/-!
# Runs of a compiler

Texts that are compiled in turn with one compiler. The texts that were compiled well without a
namespace determine what the compiler keeps, and what it keeps was made by compiling anew.
-/

namespace LambdaText

open LambdaText.Code LambdaText.Function LambdaText.Log LambdaText.Text

/-! ### One call -/

theorem ends_compileWith_apart (m : Machine) {settings : Settings} {address : Nat}
    {cache : Option (Cache String Value)} (text : String) {given : Value}
    (hgiven : IsNamespace given) (hapart : given ≠ .none ∨ cache = none) {s : State}
    (hs : s.compilers[address]? = some ⟨settings, cache⟩) :
    ∃ log, (compileWith m address (.text text) given).ends s =
      compilingEnd s given log s.compilers (compileResult settings text) := by
  obtain ⟨log, hplain⟩ := ends_compileText m settings text hgiven s
  refine ⟨log, ?_⟩
  have hdirect : (compilerSettings address >>= fun found =>
      compileText m found (.text text) given).ends s =
        (compileText m settings (.text text) given).ends s := by
    rw [Run.ends_bind_of_ok (ends_compilerSettings address s), hs]
    rfl
  rw [compileWith, Run.ends_bind_of_ok (ends_compilerCache address s), hs, Option.bind_some,
    ← hplain, ← hdirect]
  cases given with
  | none =>
    obtain rfl := hapart.resolve_left (by simp)
    rfl
  | dict a => rfl
  | _ => exact hgiven.elim

theorem ends_compileWith_kept (m : Machine) {settings : Settings} {address : Nat}
    {cache : Cache String Value} (text : Value) {s : State}
    (hs : s.compilers[address]? = some ⟨settings, some cache⟩) :
    (compileWith m address text .none).ends s = (compileKept m address cache text).ends s := by
  rw [compileWith, Run.ends_bind_of_ok (ends_compilerCache address s), hs]
  rfl

/-! ### Calls in turn -/

/-- Runs computations in turn and keeps their errors. -/
def attemptInTurn : List (Run Value) → Run (List (Except Value Value))
  | [] => return []
  | r :: rs => do
    let result ← attempted r
    return result :: (← attemptInTurn rs)

/-- One computation more. -/
theorem ends_attemptInTurn_concat {rs : List (Run Value)} {r : Run Value}
    {results : List (Except Value Value)} {result : Except Value Value} {s t u : State}
    (hrs : (attemptInTurn rs).ends s = some (.ok results, t))
    (hr : r.ends t = some (result, u)) :
    (attemptInTurn (rs ++ [r])).ends s = some (.ok (results ++ [result]), u) := by
  induction rs generalizing results s with
  | nil =>
    obtain ⟨rfl, rfl⟩ : results = [] ∧ t = s := by cases hrs; exact ⟨rfl, rfl⟩
    have hfirst : (attempted r).ends t = some (.ok result, u) := by
      rw [attempted, Run.ends_caught, hr]
      rfl
    rw [List.nil_append, attemptInTurn, Run.ends_bind_of_ok hfirst]
    rfl
  | cons first rs ih =>
    rw [attemptInTurn] at hrs
    obtain ⟨result', t', hfirst, hrest⟩ := Run.exists_of_ends_bind hrs
    obtain ⟨results', u', hresults, hpure⟩ := Run.exists_of_ends_bind hrest
    cases hpure
    rw [List.cons_append, attemptInTurn, Run.ends_bind_of_ok hfirst,
      Run.ends_bind_of_ok (ih hresults)]
    rfl

def compileInTurn (m : Machine) (address : Nat) (calls : List (String × Value)) :
    Run (List (Except Value Value)) :=
  attemptInTurn (calls.map fun call => compileWith m address (.text call.1) call.2)

theorem ends_compileInTurn_concat {m : Machine} {address : Nat} {calls : List (String × Value)}
    {results : List (Except Value Value)} {text : String} {given : Value}
    {result : Except Value Value} {s t u : State}
    (hcalls : (compileInTurn m address calls).ends s = some (.ok results, t))
    (hcall : (compileWith m address (.text text) given).ends t = some (result, u)) :
    (compileInTurn m address (calls ++ [(text, given)])).ends s =
      some (.ok (results ++ [result]), u) := by
  rw [compileInTurn, List.map_append]
  exact ends_attemptInTurn_concat hcalls hcall

/-- The texts that were compiled well or found without a namespace, with what they gave, newest
first. -/
def usesOf (calls : List (String × Value)) (results : List (Except Value Value)) :
    List (String × Value) :=
  ((calls.zip results).filterMap fun
    | ((text, .none), .ok v) => some (text, v)
    | _ => none).reverse

/-- The number of calls without a namespace. -/
def countPlain (calls : List (String × Value)) : Nat :=
  calls.countP fun call => call.2 matches .none

/-- What compiling leaves as it was: cells and serial numbers are added, and else only the log and
what compilers keep change. -/
structure OnlyCompiled (s t : State) : Prop where
  cells : ∃ more, t.cells = s.cells ++ more
  serial : s.serial ≤ t.serial
  settings : t.compilers.map Compiler.settings = s.compilers.map Compiler.settings
  others : t = { s with
    cells := t.cells, serial := t.serial, log := t.log, compilers := t.compilers }

theorem map_settings_withCache (compilers : Array Compiler) (address : Nat)
    (cache : Cache String Value) :
    (withCache compilers address cache).map Compiler.settings =
      compilers.map Compiler.settings := by
  ext i hi hi'
  · simp [withCache]
  · simp only [withCache, Array.getElem_map, Array.getElem_modify]
    split <;> rfl

theorem map_settings_missedCompilers (s : State) (address : Nat) (missed : Cache String Value)
    (text : String) (result : Except Value (Source × List String × Expr)) :
    (missedCompilers s address missed text result).map Compiler.settings =
      s.compilers.map Compiler.settings := by
  cases result <;> exact map_settings_withCache _ _ _

/-- A change of the log and of what a compiler keeps. -/
theorem OnlyCompiled.withCache (s : State) (log : Array Record) (address : Nat)
    (cache : Cache String Value) :
    OnlyCompiled s { s with log, compilers := withCache s.compilers address cache } :=
  ⟨⟨#[], by simp⟩, le_rfl, map_settings_withCache _ _ _, rfl⟩

theorem OnlyCompiled.logged (s : State) (log : Array Record) : OnlyCompiled s { s with log } :=
  ⟨⟨#[], by simp⟩, le_rfl, rfl, rfl⟩

theorem OnlyCompiled.refl (s : State) : OnlyCompiled s s := .logged s s.log

theorem OnlyCompiled.trans {s t u : State} (h : OnlyCompiled s t) (h' : OnlyCompiled t u) :
    OnlyCompiled s u := by
  obtain ⟨⟨more, hmore⟩, hserial, hsettings, hothers⟩ := h
  obtain ⟨⟨more', hmore'⟩, hserial', hsettings', hothers'⟩ := h'
  refine ⟨⟨more ++ more', by rw [hmore', hmore, Array.append_assoc]⟩, hserial.trans hserial',
    hsettings'.trans hsettings, ?_⟩
  rw [hothers', hothers]

/-- What compiling anew in a state gives. -/
def compiledAnew (settings : Settings) (s : State) (text : String) : Except Value Value :=
  (compileResult settings text).map fun found =>
    .compiled (s.serial + 1) found.1 (compiledFunction s found.2)

/-- The cells after compiling a text anew. -/
def cellsAnew (settings : Settings) (s : State) (text : String) (given : Value) : Array Cell :=
  match compileResult settings text with
  | .error _ => s.cells
  | .ok _ => s.cells.push (.dict (globalEntries s given))

/-- Whether a value is a compiled text that was made before a serial number is given. -/
def IsMade (serial : Nat) (v : Value) : Prop :=
  ∃ k source f, v = .compiled k source f ∧ k < serial

theorem IsMade.mono {serial serial' : Nat} (h : serial ≤ serial') {v : Value}
    (hv : IsMade serial v) : IsMade serial' v := by
  obtain ⟨k, source, f, rfl, hk⟩ := hv
  exact ⟨k, source, f, rfl, hk.trans_le h⟩

theorem IsMade.same {serial k : Nat} (hk : serial ≤ k) (source : Source) (f : Value) {v : Value}
    (hv : IsMade serial v) : Value.same (.compiled k source f) v = false := by
  obtain ⟨l, source', f', rfl, hl⟩ := hv
  have hne : k ≠ l := by omega
  simpa [Value.same] using hne

theorem IsMade.same_self {serial : Nat} {v : Value} (hv : IsMade serial v) : v.same v = true := by
  obtain ⟨k, source, f, rfl, -⟩ := hv
  simp [Value.same]

/-- What is compiled anew has a serial number that nothing made before has. -/
theorem IsMade.same_compiledAnew {settings : Settings} {s : State} {text : String} {v w : Value}
    (hw : IsMade s.serial w) (hv : compiledAnew settings s text = .ok v) : v.same w = false := by
  unfold compiledAnew at hv
  cases hresult : compileResult settings text with
  | error e =>
    rw [hresult] at hv
    cases hv
  | ok found =>
    rw [hresult] at hv
    cases hv
    exact hw.same (Nat.le_succ _) _ _

theorem exists_compilingEnd (settings : Settings) (s : State) (given : Value)
    (log : Array Record) {compilers : Array Compiler}
    (hcompilers : compilers.map Compiler.settings = s.compilers.map Compiler.settings)
    (text : String) :
    ∃ t, compilingEnd s given log compilers (compileResult settings text) =
        some (compiledAnew settings s text, t) ∧
      t.compilers = compilers ∧ OnlyCompiled s t ∧ t.cells = cellsAnew settings s text given ∧
      ∀ v, compiledAnew settings s text = .ok v → IsMade t.serial v := by
  unfold compiledAnew cellsAnew
  cases compileResult settings text with
  | error e =>
    exact ⟨_, rfl, rfl, ⟨⟨#[], by simp⟩, le_rfl, hcompilers, rfl⟩, rfl, fun v hv => by cases hv⟩
  | ok found =>
    refine ⟨_, rfl, rfl, ⟨⟨#[.dict (globalEntries s given)], ?_⟩, ?_, hcompilers, rfl⟩, rfl,
      fun v hv => ?_⟩
    · exact Array.push_eq_append
    · exact Nat.le_add_right _ _
    · cases hv
      exact ⟨_, _, _, rfl, Nat.lt_succ_self _⟩

/-- Whether a text is found with so much room: it has been used, and since then fewer other texts
have. -/
def IsRecent (room : Nat) (uses : List (String × Value)) (text : String) : Prop :=
  (uses.lookup text).isSome = true ∧ (othersSince uses text).card < room

theorem mem_of_lookup {uses : List (String × Value)} {text : String} {v : Value}
    (h : uses.lookup text = some v) : (text, v) ∈ uses := by
  obtain ⟨since, earlier, rfl, -⟩ := List.lookup_eq_some_iff.1 h
  simp

/-- What one call does to a cache that holds the newest uses: nothing with a namespace, a hit for a
text that is recent, and a miss for all others. -/
inductive CallStep (settings : Settings) (uses : List (String × Value)) (s : State)
    (cache : Cache String Value) (text : String) :
    Value → Except Value Value → Cache String Value → Prop
  | apart {given : Value} (h : given ≠ .none) :
    CallStep settings uses s cache text given (compiledAnew settings s text) cache
  | found {v : Value} (hused : uses.lookup text = some v)
    (hroom : (othersSince uses text).card < settings.cacheSize) {entries : List (String × Value)}
    (hholds : Cache.Holds { cache with entries, hits := cache.hits + 1 } ((text, v) :: uses)) :
    CallStep settings uses s cache text .none (.ok v)
      { cache with entries, hits := cache.hits + 1 }
  | failed (h : ¬ IsRecent settings.cacheSize uses text) {e : Value}
    (he : compiledAnew settings s text = .error e) :
    CallStep settings uses s cache text .none (.error e) { cache with misses := cache.misses + 1 }
  | made (h : ¬ IsRecent settings.cacheSize uses text) {v : Value}
    (hv : compiledAnew settings s text = .ok v) {entries : List (String × Value)}
    (hholds : Cache.Holds { cache with entries, misses := cache.misses + 1 }
      ((text, v) :: uses)) :
    CallStep settings uses s cache text .none (.ok v)
      { cache with entries, misses := cache.misses + 1 }

theorem ends_compileWith_step (m : Machine) {settings : Settings} {address : Nat}
    {cache : Cache String Value} {uses : List (String × Value)} (text : String) {given : Value}
    (hgiven : IsNamespace given) {s : State}
    (hs : s.compilers[address]? = some ⟨settings, some cache⟩) (hholds : cache.Holds uses)
    (hcapacity : cache.capacity = settings.cacheSize) (hpos : 0 < settings.cacheSize) :
    ∃ result t cache', (compileWith m address (.text text) given).ends s = some (result, t) ∧
      t.compilers[address]? = some ⟨settings, some cache'⟩ ∧ OnlyCompiled s t ∧
      CallStep settings uses s cache text given result cache' ∧
      (given = .none ∧ (∃ v, result = .ok v ∧ (text, v) ∈ uses) ∨
        result = compiledAnew settings s text ∧ t.cells = cellsAnew settings s text given ∧
          ∀ v, result = .ok v → IsMade t.serial v) := by
  by_cases hapart : given = .none
  · subst hapart
    rw [ends_compileWith_kept m _ hs]
    have hfound := hholds.find?_entries text
    rw [hcapacity] at hfound
    by_cases hrecent : IsRecent settings.cacheSize uses text
    · obtain ⟨v, hv⟩ := Option.isSome_iff_exists.1 hrecent.1
      rw [if_pos hrecent.2, hv, Option.map_some] at hfound
      obtain ⟨entries, hfind, hholds'⟩ := hholds.find_of_find?_some hfound
      exact ⟨.ok v, _, _, ends_compileKept_found m address hfind s, getElem?_withCache hs _,
        .withCache s s.log address _, .found hv hrecent.2 hholds',
        .inl ⟨rfl, v, rfl, mem_of_lookup hv⟩⟩
    · have hnone : (cache.entries.find? fun entry => entry.1 == text) = none := by
        rw [hfound, ite_eq_right_iff, Option.map_eq_none_iff]
        intro hroom
        by_contra hsome
        exact hrecent ⟨Option.isSome_iff_ne_none.2 hsome, hroom⟩
      obtain ⟨log, hkept⟩ := ends_compileKept_missed m (Cache.find_of_find?_none hnone) hs
      obtain ⟨t, hend, hcompilers, honly, hcells, hmade⟩ := exists_compilingEnd settings s .none log
        (map_settings_missedCompilers s address { cache with misses := cache.misses + 1 } text
          (compileResult settings text)) text
      rw [hkept, hend]
      cases hresult : compileResult settings text with
      | error e =>
        have hanew : compiledAnew settings s text = .error e := by
          rw [compiledAnew, hresult]
          rfl
        rw [hresult] at hcompilers
        rw [hanew]
        exact ⟨_, t, _, rfl, by rw [hcompilers]; exact getElem?_withCache hs _, honly,
          .failed hrecent hanew, .inr ⟨rfl, hcells, fun v hv => by cases hv⟩⟩
      | ok found =>
        have hanew : compiledAnew settings s text =
            .ok (.compiled (s.serial + 1) found.1 (compiledFunction s found.2)) := by
          rw [compiledAnew, hresult]
          rfl
        rw [hresult] at hcompilers
        rw [hanew]
        have hstored := Cache.Holds.store (c := { cache with misses := cache.misses + 1 }) hholds
          (hcapacity ▸ hpos) text (.compiled (s.serial + 1) found.1 (compiledFunction s found.2))
        exact ⟨_, t, _, rfl, by rw [hcompilers]; exact getElem?_withCache hs _, honly,
          .made hrecent hanew hstored,
          .inr ⟨rfl, hcells, fun v hv => hmade v (hanew.trans hv)⟩⟩
  · obtain ⟨log, hend⟩ := ends_compileWith_apart m text hgiven (.inl hapart) hs
    obtain ⟨t, hend', hcompilers, honly, hcells, hmade⟩ := exists_compilingEnd settings s given log
      rfl text
    exact ⟨_, t, cache, hend.trans hend', hcompilers ▸ hs, honly, .apart hapart,
      .inr ⟨rfl, hcells, hmade⟩⟩

/-! ### Whole runs -/

theorem zip_concat {calls : List (String × Value)} {results : List (Except Value Value)}
    (hlength : results.length = calls.length) (call : String × Value)
    (result : Except Value Value) :
    (calls ++ [call]).zip (results ++ [result]) = calls.zip results ++ [(call, result)] := by
  rw [List.zip_append hlength.symm]
  rfl

theorem usesOf_apart {calls : List (String × Value)} {results : List (Except Value Value)}
    (hlength : results.length = calls.length) (text : String) {given : Value} (h : given ≠ .none)
    (result : Except Value Value) :
    usesOf (calls ++ [(text, given)]) (results ++ [result]) = usesOf calls results := by
  rw [usesOf, zip_concat hlength, List.filterMap_append]
  cases given with
  | none => exact absurd rfl h
  | _ => simp [usesOf]

theorem usesOf_error {calls : List (String × Value)} {results : List (Except Value Value)}
    (hlength : results.length = calls.length) (text : String) (given e : Value) :
    usesOf (calls ++ [(text, given)]) (results ++ [.error e]) = usesOf calls results := by
  rw [usesOf, zip_concat hlength, List.filterMap_append]
  simp [usesOf]

theorem usesOf_ok {calls : List (String × Value)} {results : List (Except Value Value)}
    (hlength : results.length = calls.length) (text : String) (v : Value) :
    usesOf (calls ++ [(text, .none)]) (results ++ [.ok v]) = (text, v) :: usesOf calls results := by
  rw [usesOf, zip_concat hlength, List.filterMap_append]
  simp [usesOf]

theorem exists_call_of_mem_usesOf {calls : List (String × Value)}
    {results : List (Except Value Value)} {text : String} {v : Value}
    (h : (text, v) ∈ usesOf calls results) :
    ∃ i : Nat, calls[i]? = some (text, .none) ∧ results[i]? = some (.ok v) := by
  rw [usesOf, List.mem_reverse, List.mem_filterMap] at h
  obtain ⟨⟨⟨text', given⟩, result⟩, hmem, heq⟩ := h
  split at heq
  · next htuple =>
    cases htuple
    cases heq
    obtain ⟨i, hi⟩ := List.mem_iff_getElem?.1 hmem
    rw [List.getElem?_zip_eq_some] at hi
    exact ⟨i, hi⟩
  · cases heq

theorem mem_of_mem_usesOf {calls : List (String × Value)} {results : List (Except Value Value)}
    {text : String} {v : Value} (h : (text, v) ∈ usesOf calls results) : .ok v ∈ results := by
  obtain ⟨i, -, hi⟩ := exists_call_of_mem_usesOf h
  exact List.mem_of_getElem? hi

theorem countPlain_apart (calls : List (String × Value)) (text : String) {given : Value}
    (h : given ≠ .none) : countPlain (calls ++ [(text, given)]) = countPlain calls := by
  rw [countPlain, List.countP_append]
  cases given with
  | none => exact absurd rfl h
  | _ => rfl

theorem countPlain_none (calls : List (String × Value)) (text : String) :
    countPlain (calls ++ [(text, .none)]) = countPlain calls + 1 := by
  rw [countPlain, List.countP_append]
  rfl

/-- What a cache is after a run: it holds the newest uses, and has counted the calls without a
namespace. -/
structure Accounts (settings : Settings) (calls : List (String × Value))
    (results : List (Except Value Value)) (cache : Cache String Value) : Prop where
  capacity : cache.capacity = settings.cacheSize
  holds : cache.Holds (usesOf calls results)
  count : cache.hits + cache.misses = countPlain calls

/-- One call more keeps the account. -/
theorem Accounts.concat {settings : Settings} {calls : List (String × Value)}
    {results : List (Except Value Value)} {cache cache' : Cache String Value} {text : String}
    {given : Value} {result : Except Value Value} {s : State}
    (h : Accounts settings calls results cache) (hlength : results.length = calls.length)
    (hstep : CallStep settings (usesOf calls results) s cache text given result cache') :
    Accounts settings (calls ++ [(text, given)]) (results ++ [result]) cache' := by
  obtain ⟨hcapacity, hholds, hcount⟩ := h
  cases hstep with
  | apart hapart =>
    exact ⟨hcapacity, by rwa [usesOf_apart hlength _ hapart],
      by rwa [countPlain_apart _ _ hapart]⟩
  | found _ _ hholds' =>
    refine ⟨hcapacity, by rwa [usesOf_ok hlength], ?_⟩
    rw [countPlain_none, ← hcount]
    exact Nat.succ_add _ _
  | failed _ _ =>
    exact ⟨hcapacity, by rwa [usesOf_error hlength], by rw [countPlain_none, ← hcount]; rfl⟩
  | made _ _ hholds' =>
    exact ⟨hcapacity, by rwa [usesOf_ok hlength], by rw [countPlain_none, ← hcount]; rfl⟩

theorem Accounts.ends_cacheInfo {settings : Settings} {calls : List (String × Value)}
    {results : List (Except Value Value)} {cache : Cache String Value} {address : Nat} {s : State}
    (h : Accounts settings calls results cache)
    (hs : s.compilers[address]? = some ⟨settings, some cache⟩) :
    (cacheInfo address).ends s = some (.ok (some (cache.hits, cache.misses, settings.cacheSize,
      min settings.cacheSize ((usesOf calls results).map Prod.fst).toFinset.card)), s) := by
  rw [cacheInfo, Run.ends_bind_of_ok (ends_compilerCache _ s), hs, ← h.capacity, ← h.holds.size]
  rfl

theorem ends_compileInTurn (m : Machine) {settings : Settings} {address : Nat}
    (hpos : 0 < settings.cacheSize) {calls : List (String × Value)}
    (hcalls : ∀ call ∈ calls, IsNamespace call.2) {s : State}
    (hs : s.compilers[address]? = some settings.compiler) :
    ∃ results t cache, (compileInTurn m address calls).ends s = some (.ok results, t) ∧
      results.length = calls.length ∧ t.compilers[address]? = some ⟨settings, some cache⟩ ∧
      Accounts settings calls results cache ∧ (∀ v, .ok v ∈ results → IsMade t.serial v) ∧
      OnlyCompiled s t := by
  induction calls using List.reverseRecOn with
  | nil =>
    refine ⟨[], s, { capacity := settings.cacheSize }, rfl, rfl, ?_, ⟨rfl, ?_, rfl⟩, ?_, .refl s⟩
    · rw [hs, Settings.compiler, if_neg (by omega)]
    · exact (List.take_nil).symm
    · intro v hv
      cases hv
  | append_singleton calls call ih =>
    obtain ⟨text, given⟩ := call
    obtain ⟨results, t, cache, hrun, hlength, ht, haccounts, hmade, honly⟩ :=
      ih fun call hcall => hcalls call (List.mem_append_left _ hcall)
    obtain ⟨result, u, cache', hcall, hu, honly', hstep, hresult⟩ := ends_compileWith_step m text
      (hcalls (text, given) (by simp)) ht haccounts.holds haccounts.capacity hpos
    refine ⟨results ++ [result], u, cache', ends_compileInTurn_concat hrun hcall, by simp [hlength],
      hu, haccounts.concat hlength hstep, fun v hv => ?_, honly.trans honly'⟩
    rcases List.mem_append.1 hv with hv | hv
    · exact (hmade v hv).mono honly'.serial
    · have heq := (List.mem_singleton.1 hv).symm
      rcases hresult with ⟨-, w, hw, huse⟩ | ⟨-, -, hnew⟩
      · cases hw.symm.trans heq
        exact (hmade v (mem_of_mem_usesOf huse)).mono honly'.serial
      · exact hnew v heq

def compileRun (m : Machine) (settings : Settings) (calls : List (String × Value)) :
    Run (List (Except Value Value)) := do
  compileInTurn m (← newCompiler settings) calls

theorem ends_compileRun_one (m : Machine) {settings : Settings}
    (hsize : settings.cacheSize < maxCapacity) {text : String} {given : Value}
    {result : Except Value Value} {s t : State}
    (h : (compileNew m settings text given).ends s = some (result, t)) :
    (compileRun m settings [(text, given)]).ends s = some (.ok [result], t) := by
  obtain ⟨log, hnew⟩ := ends_newCompiler hsize s
  rw [compileNew, Run.ends_bind_of_ok hnew] at h
  rw [compileRun, Run.ends_bind_of_ok hnew]
  exact @ends_compileInTurn_concat m _ [] _ _ _ _ _ _ _ rfl h

/-- After any run of a compiler with room, a text without a namespace gives the very thing that it
gave when it was last compiled well or found, if since then fewer other texts than there is room for
have been compiled well or found; else it is compiled anew and counts as a miss, and what it gives
is none of the things given before. Hits and misses count the calls without a namespace, the size is
the number of texts compiled well as far as there is room, and calls that fail or have a namespace
leave the entries and their order as they are. -/
theorem compiler_keeps_recent {settings : Settings} (hpos : 0 < settings.cacheSize)
    (hsize : settings.cacheSize < maxCapacity) {calls : List (String × Value)}
    (hcalls : ∀ call ∈ calls, IsNamespace call.2) (text : String) {given : Value}
    (hgiven : IsNamespace given) (s : State) :
    ∃ results t cache result u cache',
      (compileRun machine settings calls).ends s = some (.ok results, t) ∧
      results.length = calls.length ∧
      t.compilers[s.compilers.size]? = some ⟨settings, some cache⟩ ∧
      (cacheInfo s.compilers.size).ends t =
        some (.ok (some (cache.hits, cache.misses, settings.cacheSize, min settings.cacheSize
          ((usesOf calls results).map Prod.fst).toFinset.card)), t) ∧
      cache.hits + cache.misses = countPlain calls ∧
      (compileWith machine s.compilers.size (.text text) given).ends t = some (result, u) ∧
      u.compilers[s.compilers.size]? = some ⟨settings, some cache'⟩ ∧
      (given ≠ .none → cache' = cache ∧ result = compiledAnew settings t text) ∧
      (given = .none →
        (∀ v, (usesOf calls results).lookup text = some v →
          (result = .ok v ↔ (othersSince (usesOf calls results) text).card < settings.cacheSize)) ∧
        (IsRecent settings.cacheSize (usesOf calls results) text →
          cache'.hits = cache.hits + 1 ∧ cache'.misses = cache.misses) ∧
        (¬ IsRecent settings.cacheSize (usesOf calls results) text →
          cache'.hits = cache.hits ∧ cache'.misses = cache.misses + 1 ∧
          result = compiledAnew settings t text ∧
          ∀ v, result = .ok v → ∀ w, .ok w ∈ results → v.same w = false) ∧
        ∀ e, result = .error e → cache'.misses = cache.misses + 1 ∧
          cache'.entries = cache.entries) := by
  obtain ⟨log, hnew⟩ := ends_newCompiler hsize s
  have hs : (s.compilers.push settings.compiler)[s.compilers.size]? = some settings.compiler :=
    Array.getElem?_push_size
  obtain ⟨results, t, cache, hrun, hlength, ht, haccounts, hmade, -⟩ :=
    ends_compileInTurn machine hpos hcalls
      (s := { s with compilers := s.compilers.push settings.compiler, log }) hs
  obtain ⟨result, u, cache', hcall, hu, -, hstep, -⟩ := ends_compileWith_step machine text hgiven ht
    haccounts.holds haccounts.capacity hpos
  have hcrowded : ¬ IsRecent settings.cacheSize (usesOf calls results) text →
      ∀ w, (usesOf calls results).lookup text = some w →
        ¬ (othersSince (usesOf calls results) text).card < settings.cacheSize :=
    fun h w hw hroom => h ⟨Option.isSome_iff_exists.2 ⟨w, hw⟩, hroom⟩
  refine ⟨results, t, cache, result, u, cache', ?_, hlength, ht, haccounts.ends_cacheInfo ht,
    haccounts.count, hcall, hu, ?_⟩
  · rw [compileRun, Run.ends_bind_of_ok hnew, hrun]
  · cases hstep with
    | apart hapart => exact ⟨fun _ => ⟨rfl, rfl⟩, fun hnone => absurd hnone hapart⟩
    | @found v hused hroom =>
      refine ⟨fun h => absurd rfl h, fun _ => ⟨fun w hw => ?_, fun _ => ⟨rfl, rfl⟩, fun h => ?_,
        fun e he => by cases he⟩⟩
      · rw [hused, Option.some.injEq] at hw
        simp [hw, hroom]
      · exact absurd ⟨Option.isSome_iff_exists.2 ⟨v, hused⟩, hroom⟩ h
    | failed hrecent he =>
      refine ⟨fun h => absurd rfl h, fun _ => ⟨fun w hw => ?_, fun h => absurd h hrecent,
        fun _ => ⟨rfl, rfl, he.symm, fun v hv => by cases hv⟩, fun e he => ⟨rfl, rfl⟩⟩⟩
      simp [hcrowded hrecent w hw]
    | @made hrecent v hv =>
      refine ⟨fun h => absurd rfl h, fun _ => ⟨fun w hw => ?_, fun h => absurd h hrecent,
        fun _ => ⟨rfl, rfl, hv.symm,
          fun w hw x hx => (hmade x hx).same_compiledAnew (hv.trans hw)⟩, fun e he => by cases he⟩⟩
      refine ⟨fun hvw => ?_, fun h => absurd h (hcrowded hrecent w hw)⟩
      -- A thing made now is not the one that the text gave before.
      have hbefore := hmade w (mem_of_mem_usesOf (mem_of_lookup hw))
      have hdiffers := hbefore.same_compiledAnew hv
      rw [Except.ok.inj hvw, hbefore.same_self] at hdiffers
      cases hdiffers

/-- A text that is compiled twice in a row is found, whatever room there is. -/
theorem compiler_keeps_recent_twice :
    ∃ v t u, (compileRun machine { cacheSize := 1 } [(String.ofList ['x'], .none)]).ends {} =
        some (.ok [.ok v], t) ∧
      (compileWith machine 0 (.text (String.ofList ['x'])) .none).ends t = some (.ok v, u) := by
  have hsize : Settings.cacheSize { cacheSize := 1 } < maxCapacity := by decide
  obtain ⟨results, t, cache, result, u, cache', hrun, hlength, -, -, -, hcall, -, -, hplain⟩ :=
    compiler_keeps_recent (show 0 < Settings.cacheSize { cacheSize := 1 } by decide) hsize
      (show ∀ call ∈ [(String.ofList ['x'], .none)], IsNamespace call.2 by simp [IsNamespace])
      (String.ofList ['x'])
      (show IsNamespace .none from trivial) {}
  obtain ⟨found, hfound⟩ : ∃ found, compileResult { cacheSize := 1 } (String.ofList ['x']) =
      .ok found := ⟨_, rfl⟩
  obtain ⟨log, compilers, hone⟩ := ends_compileNew machine hsize (String.ofList ['x'])
    (show IsNamespace .none from trivial) {}
  rw [hfound] at hone
  have hfirst := ends_compileRun_one machine hsize hone
  rw [hrun, Option.some.injEq, Prod.mk.injEq, Except.ok.injEq] at hfirst
  obtain ⟨rfl, -⟩ := hfirst
  have hresult := ((hplain rfl).1 _ (by simp [usesOf]; rfl)).2 (by simp [othersSince, usesOf])
  exact ⟨_, t, u, hrun, hresult ▸ hcall⟩

end LambdaText
