import LambdaText.Proofs.Eval.CompileRuns
import LambdaText.Proofs.Eval.Written

/-!
# The shared compiler

Between two resets there is at most one shared compiler: the one that the first use makes for which
the variables of the environment say valid settings. Later changes of the environment do not matter
to it, a use that fails leaves none behind, and what needs no compiler neither reads the environment
nor makes one.
-/

namespace LambdaText

open LambdaText.Code LambdaText.Function LambdaText.Log LambdaText.Text

/-- A step that may concern the shared compiler. -/
inductive SharedStep where
  /-- Gives the environment these variables. -/
  | setVariables (environment : List (String × String))
  | reset
  | getShared
  | compileShared (text given : Value)
  | coerce (v given : Value)

namespace SharedStep

def uses : SharedStep → Bool
  | .getShared | .compileShared _ _ | .coerce (.text _) _ => true
  | _ => false

/-- What a step that uses the shared compiler does with the compiler at an address. -/
def useWith (m : Machine) (address : Nat) : SharedStep → Run Value
  | .compileShared text given => compileWith m address text given
  | .coerce v given =>
    match v with
    | .text text =>
      if Source.hasReturn text.toList then compileBlock m v given
      else compileWith m address v given
    | _ => return .none
  | _ => return .compiler address

def run (m : Machine) : SharedStep → Run Value
  | .setVariables environment => do
    modify fun s => { s with environment }
    return .none
  | .reset => do
    resetShared
    return .none
  | .getShared => return .compiler (← sharedCompiler)
  | .compileShared text given => do compileWith m (← sharedCompiler) text given
  | .coerce v given => asCallable m v given

def environmentAfter (environment : List (String × String)) (steps : List SharedStep) :
    List (String × String) :=
  steps.foldl (fun environment step =>
    match step with
    | .setVariables environment => environment
    | _ => environment) environment

/-- What is asked of the namespaces of a step. -/
def IsProper : SharedStep → Prop
  | .compileShared _ given | .coerce _ given => IsNamespace given
  | _ => True

theorem run_of_uses {m : Machine} {step : SharedStep} (h : step.uses = true) :
    step.run m = sharedCompiler >>= fun address => step.useWith m address := by
  cases step with
  | getShared => rfl
  | compileShared text given => rfl
  | coerce v given =>
    cases v with
    | text text => rfl
    | _ => cases h
  | _ => cases h

end SharedStep

/-! ### Making the shared compiler -/

/-- What the variables of an environment come to: settings, or an error with their issues. -/
def variablesResult (environment : List (String × String)) : Except Value Settings :=
  (Settings.ofVariables fun name => (environment.lookup name).map Datum.text).mapError fun issues =>
    .error "ValidationError" [] (some (.issues issues))

/-- What an environment comes to for a compiler: its settings, or the error that there is none. -/
def sharedSettings (environment : List (String × String)) : Except Value Settings :=
  match variablesResult environment with
  | .error e => .error e
  | .ok settings =>
    if maxCapacity ≤ settings.cacheSize then .error overflowError else .ok settings

/-- What variables come to leaves nothing behind but records in the log. -/
theorem ends_loadSettings (variableOf : String → Option Datum) (s : State) :
    ∃ log, (loadSettings variableOf).ends s =
      some ((Settings.ofVariables variableOf).mapError fun issues =>
        .error "ValidationError" [] (some (.issues issues)), { s with log }) := by
  have hchecked (t : State) : (demandChecked (Settings.ofVariables variableOf)).ends t =
      some ((Settings.ofVariables variableOf).mapError fun issues =>
        .error "ValidationError" [] (some (.issues issues)), t) := by
    cases Settings.ofVariables variableOf <;> rfl
  unfold loadSettings
  cases hempty : (Settings.overrides variableOf).isEmpty with
  | true =>
    simp only [hempty, Bool.not_true, Bool.false_eq_true, if_false]
    exact ⟨s.log, hchecked s⟩
  | false =>
    simp only [hempty, Bool.not_false, if_true]
    exact ⟨_, hchecked { s with log := s.log.push _ }⟩

theorem ends_environmentSettings (s : State) :
    ∃ log, environmentSettings.ends s = some (variablesResult s.environment, { s with log }) :=
  ends_loadSettings (environmentVariable s) s

/-- A use where there is no shared compiler makes one, unless the environment is not valid. -/
theorem ends_sharedCompiler_none {s : State} (h : s.shared = none) :
    ∃ log, sharedCompiler.ends s = match sharedSettings s.environment with
      | .error e => some (.error e, { s with log })
      | .ok settings => some (.ok s.compilers.size, { s with
          compilers := s.compilers.push settings.compiler
          shared := some s.compilers.size
          log }) := by
  have hmake : sharedCompiler.ends s = (do
      let address ← newCompiler (← environmentSettings)
      modify fun s => { s with shared := some address }
      return address : Run Nat).ends s := by
    unfold sharedCompiler
    rw [Run.ends_get_bind, h]
  obtain ⟨log, hload⟩ := ends_environmentSettings s
  unfold sharedSettings
  rw [hmake]
  cases hvariables : variablesResult s.environment with
  | error e =>
    rw [hvariables] at hload
    exact ⟨log, Run.ends_bind_of_error hload _⟩
  | ok settings =>
    rw [hvariables] at hload
    rw [Run.ends_bind_of_ok hload]
    by_cases hlarge : maxCapacity ≤ settings.cacheSize
    · simp only [hlarge, if_true]
      exact ⟨log, Run.ends_bind_of_error (ends_newCompiler_overflow hlarge _) _⟩
    · simp only [hlarge, if_false]
      obtain ⟨log', hnew⟩ := ends_newCompiler (Nat.not_le.1 hlarge) { s with log }
      exact ⟨log', Run.ends_bind_of_ok hnew _⟩

theorem ends_sharedCompiler_some {s : State} {address : Nat} (h : s.shared = some address) :
    sharedCompiler.ends s = some (.ok address, s) := by
  unfold sharedCompiler
  rw [Run.ends_get_bind, h]
  rfl

/-! ### Using a compiler -/

theorem ends_compileText_notText (m : Machine) (settings : Settings) {v : Value}
    (hv : ∀ text, v ≠ .text text) (given : Value) (s : State) :
    ∃ e log, (compileText m settings v given).ends s = some (.error e, { s with log }) := by
  have hread : readSource settings v = fail .notText := by
    cases v with
    | text text => exact absurd rfl (hv text)
    | _ => rfl
  obtain ⟨log, hfail⟩ := ends_fail (α := Source) .notText s
  rw [compileText, hread]
  exact ⟨_, log, Run.ends_bind_of_error hfail _⟩

theorem ends_demandKey (v : Value) (s : State) :
    ∃ result, (demandKey v).ends s = some (result, s) := by
  unfold demandKey
  cases v.unhashable? <;> exact ⟨_, rfl⟩

theorem ends_compileWith_notText (m : Machine) (address : Nat) {v : Value}
    (hv : ∀ text, v ≠ .text text) {given : Value} (hgiven : IsNamespace given) (s : State) :
    ∃ result t, (compileWith m address v given).ends s = some (result, t) ∧ OnlyCompiled s t := by
  have hdirect : ∀ t : State, ∃ e log, (compilerSettings address >>= fun settings =>
      compileText m settings v given).ends t = some (.error e, { t with log }) := fun t => by
    rw [Run.ends_bind_of_ok (ends_compilerSettings address t)]
    exact ends_compileText_notText m _ hv given t
  rw [compileWith, Run.ends_bind_of_ok (ends_compilerCache address s)]
  cases hcache : s.compilers[address]?.bind Compiler.cache with
  | none =>
    obtain ⟨e, log, hend⟩ := hdirect s
    refine ⟨.error e, _, ?_, .logged s log⟩
    rw [← hend]
    cases given <;> rfl
  | some cache =>
    cases given with
    | none =>
      have hkept : compileKept m address cache v = (do
          demandKey v
          setCache address { cache with misses := cache.misses + 1 }
          compileText m (← compilerSettings address) v .none) := by
        cases v with
        | text text => exact absurd rfl (hv text)
        | _ => rfl
      obtain ⟨result, hkey⟩ := ends_demandKey v s
      change ∃ result t, (compileKept m address cache v).ends s = some (result, t) ∧ _
      rw [hkept]
      cases result with
      | error e => exact ⟨_, _, Run.ends_bind_of_error hkey _, .refl s⟩
      | ok _ =>
        rw [Run.ends_bind_of_ok hkey, Run.ends_bind_of_ok (ends_setCache address _ s)]
        obtain ⟨e, log, hend⟩ := hdirect _
        exact ⟨_, _, hend, .withCache s log address _⟩
    | dict a =>
      obtain ⟨e, log, hend⟩ := hdirect s
      exact ⟨_, _, hend, .logged s log⟩
    | _ => exact hgiven.elim

theorem ends_compileWith (m : Machine) {settings : Settings} {address : Nat}
    {cache : Option (Cache String Value)} (v : Value) {given : Value} (hgiven : IsNamespace given)
    {s : State} (hs : s.compilers[address]? = some ⟨settings, cache⟩) :
    ∃ result t, (compileWith m address v given).ends s = some (result, t) ∧ OnlyCompiled s t := by
  by_cases hv : ∀ text, v ≠ .text text
  · exact ends_compileWith_notText m address hv hgiven s
  · obtain ⟨text, rfl⟩ : ∃ text, v = .text text := by simpa using hv
    by_cases hapart : given ≠ .none ∨ cache = none
    · obtain ⟨log, hend⟩ := ends_compileWith_apart m text hgiven hapart hs
      obtain ⟨t, hend', -, honly, -, -⟩ := exists_compilingEnd settings s given log rfl text
      exact ⟨_, t, hend.trans hend', honly⟩
    · rw [not_or, not_not] at hapart
      obtain ⟨rfl, hsome⟩ := hapart
      obtain ⟨cache, rfl⟩ := Option.ne_none_iff_exists'.1 hsome
      rw [ends_compileWith_kept m _ hs]
      cases hfind : cache.find text with
      | mk found cache' =>
        cases found with
        | none =>
          obtain ⟨log, hend⟩ := ends_compileKept_missed m hfind hs
          obtain ⟨t, hend', -, honly, -, -⟩ := exists_compilingEnd settings s .none log
            (map_settings_missedCompilers s address cache' text (compileResult settings text)) text
          exact ⟨_, t, hend.trans hend', honly⟩
        | some v =>
          exact ⟨_, _, ends_compileKept_found m address hfind s, .withCache s s.log address _⟩

theorem exists_blockEnd (s : State) (text : String) (given : Value) (log : Array Record)
    (result : Except Value Routine) :
    ∃ r t, blockEnd s text given log result = some (r, t) ∧ OnlyCompiled s t := by
  cases result with
  | error e => exact ⟨_, _, rfl, .logged s log⟩
  | ok code =>
    refine ⟨_, _, rfl, ⟨⟨#[.dict (blockEntries s given code)], ?_⟩, Nat.le_add_right _ _, rfl, rfl⟩⟩
    exact Array.push_eq_append

theorem ends_useWith (m : Machine) {step : SharedStep} (hproper : step.IsProper) {address : Nat}
    {settings : Settings} {cache : Option (Cache String Value)} {s : State}
    (hs : s.compilers[address]? = some ⟨settings, cache⟩) :
    ∃ result t, (step.useWith m address).ends s = some (result, t) ∧ OnlyCompiled s t := by
  cases step with
  | compileShared v given => exact ends_compileWith m v hproper hs
  | coerce v given =>
    cases v with
    | text text =>
      simp only [SharedStep.useWith]
      split
      · obtain ⟨log, hend⟩ := ends_compileBlock m text hproper s
        obtain ⟨result, t, hend', honly⟩ := exists_blockEnd s text given log (blockResult text)
        exact ⟨result, t, hend.trans hend', honly⟩
      · exact ends_compileWith m (.text text) hproper hs
    | _ => exact ⟨_, _, rfl, .refl s⟩
  | _ => exact ⟨_, _, rfl, .refl s⟩

/-- Making a callable of what is no text needs no compiler: it ends in the same way whatever the
environment and the compilers are. -/
theorem ends_asCallable_other (m : Machine) {v : Value} (hv : ∀ text, v ≠ .text text)
    (given : Value) (s : State) :
    ∃ result log, ∀ environment compilers shared,
      (asCallable m v given).ends { s with environment, compilers, shared } =
        some (result, { s with environment, compilers, shared, log }) := by
  obtain ⟨look, hlook⟩ := reads_shown v
  have hother : asCallable m v given = if v.isCallable then pure v else refuse v := by
    cases v with
    | text text => exact absurd rfl (hv text)
    | _ => rfl
  rw [hother]
  split
  · exact ⟨.ok v, s.log, fun _ _ _ => rfl⟩
  · simp only [ends_refuse]
    cases htext : look s.cells with
    | error e =>
      exact ⟨.error e, _, fun _ _ _ => Run.ends_bind_of_error (by rw [hlook, htext]) _⟩
    | ok text =>
      exact ⟨.error (faultError (.notCallable v.kindName text)), _,
        fun _ _ _ => Run.ends_bind_of_ok (by rw [hlook, htext]) _⟩

/-! ### The life of the shared compiler -/

/-- Runs steps in turn and keeps their errors. -/
def runShared (m : Machine) (steps : List SharedStep) : Run (List (Except Value Value)) :=
  attemptInTurn (steps.map fun step => step.run m)

theorem ends_runShared_concat {m : Machine} {steps : List SharedStep} {step : SharedStep}
    {results : List (Except Value Value)} {result : Except Value Value} {s t u : State}
    (hsteps : (runShared m steps).ends s = some (.ok results, t))
    (hstep : (step.run m).ends t = some (result, u)) :
    (runShared m (steps ++ [step])).ends s = some (.ok (results ++ [result]), u) := by
  rw [runShared, List.map_append]
  exact ends_attemptInTurn_concat hsteps hstep

/-- Whether a shared compiler may be made anew after these steps: at the start or after a reset. -/
def StartsLife (steps : List SharedStep) : Prop :=
  steps = [] ∨ ∃ before, steps = before ++ [.reset]

/-- Whether none of these steps, which come after others, resets the shared compiler or could make
one: every use among them finds an environment that is not valid. -/
def NoneMade (environment : List (String × String)) (before since : List SharedStep) : Prop :=
  ∀ done step rest, since = done ++ step :: rest → step ≠ .reset ∧
    (step.uses = true → ∃ e,
      sharedSettings (SharedStep.environmentAfter environment (before ++ done)) = .error e)

/-- Where the shared compiler after a run comes from. There is none if no use since the last reset
found a valid environment; else it is the one that the first such use made, with the settings of the
environment at that moment. -/
inductive SharedOrigin (m : Machine) (s : State) (steps : List SharedStep) (t : State) : Prop
  | absent {before since : List SharedStep} (hsteps : steps = before ++ since)
    (hstart : StartsLife before) (hnone : NoneMade s.environment before since)
    (hshared : t.shared = none) : SharedOrigin m s steps t
  | made {before since later : List SharedStep} {first : SharedStep} {settings : Settings}
    {results : List (Except Value Value)} {u : State}
    (hsteps : steps = before ++ since ++ first :: later) (hstart : StartsLife before)
    (hnone : NoneMade s.environment before since) (huses : first.uses = true)
    (hlater : SharedStep.reset ∉ first :: later)
    (hsettings : sharedSettings (SharedStep.environmentAfter s.environment (before ++ since)) =
      .ok settings)
    (hrun : (runShared m (before ++ since)).ends s = some (.ok results, u))
    (hbefore : u.shared = none) (hshared : t.shared = some u.compilers.size)
    (hkept : t.compilers[u.compilers.size]?.map Compiler.settings = some settings) :
    SharedOrigin m s steps t

theorem environmentAfter_concat (environment : List (String × String)) (steps : List SharedStep)
    (step : SharedStep) :
    SharedStep.environmentAfter environment (steps ++ [step]) =
      SharedStep.environmentAfter (SharedStep.environmentAfter environment steps) [step] := by
  rw [SharedStep.environmentAfter, List.foldl_append]
  rfl

theorem environmentAfter_of_uses {step : SharedStep} (h : step.uses = true)
    (environment : List (String × String)) :
    SharedStep.environmentAfter environment [step] = environment := by
  cases step with
  | setVariables _ => cases h
  | _ => rfl

theorem NoneMade.nil (environment : List (String × String)) (before : List SharedStep) :
    NoneMade environment before [] := by
  intro done step rest h
  simp at h

theorem NoneMade.concat {environment : List (String × String)} {before since : List SharedStep}
    {step : SharedStep} (h : NoneMade environment before since) (hreset : step ≠ .reset)
    (hfails : step.uses = true → ∃ e,
      sharedSettings (SharedStep.environmentAfter environment (before ++ since)) = .error e) :
    NoneMade environment before (since ++ [step]) := by
  intro done step' rest heq
  rcases List.eq_nil_or_concat rest with rfl | ⟨rest', last, rfl⟩
  · obtain ⟨rfl, hlast⟩ := List.append_inj' heq rfl
    cases hlast
    exact ⟨hreset, hfails⟩
  · rw [List.concat_eq_append, ← List.cons_append, ← List.append_assoc] at heq
    exact h done step' rest' (List.append_inj' heq rfl).1

/-- A step that neither resets nor makes a shared compiler leaves it where it comes from. -/
theorem SharedOrigin.concat {m : Machine} {s t u : State} {steps : List SharedStep}
    {step : SharedStep} (h : SharedOrigin m s steps t) (hreset : step ≠ .reset)
    (hfails : t.shared = none → step.uses = true → ∃ e,
      sharedSettings (SharedStep.environmentAfter s.environment steps) = .error e)
    (hshared : u.shared = t.shared)
    (hsettings : u.compilers.map Compiler.settings = t.compilers.map Compiler.settings) :
    SharedOrigin m s (steps ++ [step]) u := by
  cases h with
  | absent hsteps hstart hnone habsent =>
    subst hsteps
    exact .absent (List.append_assoc _ _ _) hstart (hnone.concat hreset (hfails habsent))
      (hshared.trans habsent)
  | @made before since later first settings results w hsteps hstart hnone huses hlater hgood hrun
      hbefore hmade hkept =>
    subst hsteps
    have hsteps : before ++ since ++ first :: later ++ [step] =
        before ++ since ++ first :: (later ++ [step]) := by simp
    refine .made hsteps hstart hnone huses ?_ hgood hrun hbefore (hshared.trans hmade) ?_
    · rw [← List.cons_append, List.mem_append, not_or]
      exact ⟨hlater, by simpa using hreset.symm⟩
    · rw [← Array.getElem?_map, hsettings, Array.getElem?_map, hkept]

theorem SharedOrigin.compiler {m : Machine} {s t : State} {steps : List SharedStep}
    (h : SharedOrigin m s steps t) {address : Nat} (hshared : t.shared = some address) :
    ∃ settings cache, t.compilers[address]? = some ⟨settings, cache⟩ := by
  cases h with
  | absent _ _ _ habsent => simp [habsent] at hshared
  | made _ _ _ _ _ _ _ _ hmade hkept =>
    obtain rfl := Option.some.inj (hmade.symm.trans hshared)
    obtain ⟨compiler, hcompiler, -⟩ := Option.map_eq_some_iff.1 hkept
    exact ⟨_, _, hcompiler⟩

theorem ends_use_some (m : Machine) {step : SharedStep} (hproper : step.IsProper)
    (huses : step.uses = true) {t : State} {address : Nat} (hshared : t.shared = some address)
    (hcompiler : ∃ settings cache, t.compilers[address]? = some ⟨settings, cache⟩) :
    ∃ result u, (step.run m).ends t = some (result, u) ∧
      (step.useWith m address).ends t = some (result, u) ∧ OnlyCompiled t u := by
  obtain ⟨settings, cache, hcompiler⟩ := hcompiler
  obtain ⟨result, u, huse, honly⟩ := ends_useWith m hproper hcompiler
  refine ⟨result, u, ?_, huse, honly⟩
  rw [SharedStep.run_of_uses huses, Run.ends_bind_of_ok (ends_sharedCompiler_some hshared), huse]

theorem ends_use_none (m : Machine) {step : SharedStep} (hproper : step.IsProper)
    (huses : step.uses = true) {t : State} (hshared : t.shared = none) :
    ∃ log, match sharedSettings t.environment with
      | .error e => (step.run m).ends t = some (.error e, { t with log })
      | .ok settings => ∃ result u, (step.run m).ends t = some (result, u) ∧
        (step.useWith m t.compilers.size).ends { t with
          compilers := t.compilers.push settings.compiler
          shared := some t.compilers.size
          log } = some (result, u) ∧
        OnlyCompiled { t with
          compilers := t.compilers.push settings.compiler
          shared := some t.compilers.size
          log } u := by
  obtain ⟨log, hmake⟩ := ends_sharedCompiler_none hshared
  refine ⟨log, ?_⟩
  rw [SharedStep.run_of_uses huses]
  cases hsettings : sharedSettings t.environment with
  | error e =>
    rw [hsettings] at hmake
    exact Run.ends_bind_of_error hmake _
  | ok settings =>
    rw [hsettings] at hmake
    have hnew : (t.compilers.push settings.compiler)[t.compilers.size]? = some settings.compiler :=
      Array.getElem?_push_size
    obtain ⟨result, u, huse, honly⟩ := ends_useWith m hproper
      (s := { t with
        compilers := t.compilers.push settings.compiler
        shared := some t.compilers.size
        log }) hnew
    exact ⟨result, u, (Run.ends_bind_of_ok hmake _).trans huse, huse, honly⟩

theorem ends_sharedStep (m : Machine) {s t : State} {steps : List SharedStep}
    {results : List (Except Value Value)} {step : SharedStep} (hproper : step.IsProper)
    (hrun : (runShared m steps).ends s = some (.ok results, t))
    (henvironment : t.environment = SharedStep.environmentAfter s.environment steps)
    (horigin : SharedOrigin m s steps t) :
    ∃ result u, (step.run m).ends t = some (result, u) ∧
      u.environment = SharedStep.environmentAfter t.environment [step] ∧
      SharedOrigin m s (steps ++ [step]) u := by
  by_cases huses : step.uses = true
  · have hreset : step ≠ .reset := by rintro rfl; cases huses
    rw [environmentAfter_of_uses huses]
    cases hshared : t.shared with
    | none =>
      obtain ⟨log, huse⟩ := ends_use_none m hproper huses hshared
      cases hsettings : sharedSettings t.environment with
      | error e =>
        rw [hsettings] at huse
        exact ⟨_, _, huse, rfl,
          horigin.concat hreset (fun _ _ => ⟨e, henvironment ▸ hsettings⟩) rfl rfl⟩
      | ok settings =>
        rw [hsettings] at huse
        obtain ⟨result, u, hend, -, honly⟩ := huse
        refine ⟨result, u, hend, by rw [honly.others], ?_⟩
        cases horigin with
        | absent hsteps hstart hnone _ =>
          subst hsteps
          refine .made rfl hstart hnone huses (by simpa using hreset.symm)
            (henvironment ▸ hsettings) hrun hshared (by rw [honly.others]) ?_
          rw [← Array.getElem?_map, honly.settings, Array.getElem?_map, Array.getElem?_push_size]
          rfl
        | made _ _ _ _ _ _ _ _ hmade _ => simp [hmade] at hshared
    | some address =>
      obtain ⟨result, u, hend, -, honly⟩ :=
        ends_use_some m hproper huses hshared (horigin.compiler hshared)
      exact ⟨result, u, hend, by rw [honly.others],
        horigin.concat hreset (fun habsent => by simp [habsent] at hshared)
          (by rw [honly.others]) honly.settings⟩
  · have hfails : t.shared = none → step.uses = true → ∃ e,
        sharedSettings (SharedStep.environmentAfter s.environment steps) = .error e :=
      fun _ h => absurd h huses
    cases step with
    | setVariables environment =>
      exact ⟨.ok .none, { t with environment }, rfl, rfl,
        horigin.concat (by simp) hfails rfl rfl⟩
    | reset =>
      exact ⟨.ok .none, { t with shared := none }, rfl, rfl, .absent (List.append_nil _).symm
        (.inr ⟨steps, rfl⟩) (.nil _ _) rfl⟩
    | coerce v given =>
      have hv : ∀ text, v ≠ .text text := by rintro text rfl; exact huses rfl
      obtain ⟨result, log, hend⟩ := ends_asCallable_other m hv given t
      exact ⟨result, { t with log }, hend t.environment t.compilers t.shared, rfl,
        horigin.concat (by simp) hfails rfl rfl⟩
    | _ => exact absurd rfl huses

theorem ends_runShared (m : Machine) {steps : List SharedStep}
    (hproper : ∀ step ∈ steps, step.IsProper) {s : State} (hs : s.shared = none) :
    ∃ results t, (runShared m steps).ends s = some (.ok results, t) ∧
      results.length = steps.length ∧
      t.environment = SharedStep.environmentAfter s.environment steps ∧
      SharedOrigin m s steps t := by
  induction steps using List.reverseRecOn with
  | nil =>
    have hnone : StartsLife [] := .inl rfl
    exact ⟨[], s, rfl, rfl, rfl, .absent rfl hnone (.nil _ _) hs⟩
  | append_singleton steps step ih =>
    obtain ⟨results, t, hrun, hlength, henvironment, horigin⟩ :=
      ih fun step hstep => hproper step (List.mem_append_left _ hstep)
    obtain ⟨result, u, hend, henvironment', horigin'⟩ :=
      ends_sharedStep m (hproper step (by simp)) hrun henvironment horigin
    refine ⟨results ++ [result], u, ends_runShared_concat hrun hend, by simp [hlength], ?_,
      horigin'⟩
    rw [henvironment', environmentAfter_concat, henvironment]

/-- After any run of steps every use of the shared compiler uses the one that the first use since
the last reset made for which the environment said valid settings, with the settings of that moment.
Where there is none, a use makes one from the environment as it is, or fails and leaves none behind.
Making a callable of a callable, or refusing what is no text and no callable, ends in the same way
whatever the environment and the compilers are, and changes none of them. -/
theorem shared_compiler_life {steps : List SharedStep} (hproper : ∀ step ∈ steps, step.IsProper)
    {step : SharedStep} (hstep : step.IsProper) {s : State} (hs : s.shared = none) :
    ∃ results t, (runShared machine steps).ends s = some (.ok results, t) ∧
      results.length = steps.length ∧
      t.environment = SharedStep.environmentAfter s.environment steps ∧
      SharedOrigin machine s steps t ∧
      (step.uses = true →
        (∀ address, t.shared = some address →
          ∃ result u, (step.run machine).ends t = some (result, u) ∧
            (step.useWith machine address).ends t = some (result, u) ∧ u.shared = some address) ∧
        (t.shared = none → ∃ log, match sharedSettings t.environment with
          | .error e => (step.run machine).ends t = some (.error e, { t with log })
          | .ok settings => ∃ result u, (step.run machine).ends t = some (result, u) ∧
            (step.useWith machine t.compilers.size).ends { t with
              compilers := t.compilers.push settings.compiler
              shared := some t.compilers.size
              log } = some (result, u) ∧ u.shared = some t.compilers.size)) ∧
      ∀ v given, step = .coerce v given → (∀ text, v ≠ .text text) →
        ∃ result log, ∀ environment compilers shared,
          (step.run machine).ends { t with environment, compilers, shared } =
            some (result, { t with environment, compilers, shared, log }) := by
  obtain ⟨results, t, hrun, hlength, henvironment, horigin⟩ := ends_runShared machine hproper hs
  refine ⟨results, t, hrun, hlength, henvironment, horigin, fun huses => ⟨?_, ?_⟩, ?_⟩
  · intro address hshared
    obtain ⟨result, u, hend, huse, honly⟩ :=
      ends_use_some machine hstep huses hshared (horigin.compiler hshared)
    exact ⟨result, u, hend, huse, by rw [honly.others, hshared]⟩
  · intro hshared
    obtain ⟨log, huse⟩ := ends_use_none machine hstep huses hshared
    refine ⟨log, ?_⟩
    cases hsettings : sharedSettings t.environment with
    | error e => rwa [hsettings] at huse
    | ok settings =>
      rw [hsettings] at huse
      obtain ⟨result, u, hend, huse, honly⟩ := huse
      exact ⟨result, u, hend, huse, by rw [honly.others]⟩
  · rintro v given rfl hv
    exact ends_asCallable_other machine hv given t

/-- A compiler that is shared stays shared when the environment becomes invalid. -/
theorem shared_compiler_life_stale :
    let steps : List SharedStep :=
      [.getShared, .setVariables [("STRLAMBDA_CACHE_SIZE", "many")]]
    ∃ results t u, (runShared machine steps).ends {} = some (.ok results, t) ∧
      (SharedStep.getShared.run machine).ends t = some (.ok (.compiler 0), u) := by
  intro steps
  have hproper : ∀ step ∈ steps, step.IsProper := by simp [steps, SharedStep.IsProper]
  obtain ⟨results, t, hrun, -, -, horigin, huse, -⟩ := shared_compiler_life hproper
    (show SharedStep.getShared.IsProper from trivial) (s := {}) rfl
  have hempty : sharedSettings [] = .ok {} := rfl
  have hstarts : ∀ before since, steps = before ++ since → StartsLife before → before = [] := by
    rintro before since hsteps (rfl | ⟨before, rfl⟩)
    · rfl
    · have hmem : SharedStep.reset ∈ steps := by simp [hsteps]
      simp [steps] at hmem
  have hshared : t.shared = some 0 := by
    cases horigin with
    | @absent before since hsteps hstart hnone _ =>
      obtain rfl := hstarts _ _ hsteps hstart
      obtain ⟨e, he⟩ := (hnone [] .getShared _ hsteps.symm).2 rfl
      cases hempty.symm.trans he
    | @made before since later first _ _ u hsteps hstart _ hfirst _ _ hrun' _ hmade _ =>
      rw [List.append_assoc] at hsteps
      obtain rfl := hstarts _ _ hsteps hstart
      cases since with
      | nil =>
        cases hrun'
        exact hmade
      | cons first' since =>
        -- Only the first of the steps uses the compiler.
        have hlater : first ∈ since ++ first :: later := by simp
        rw [List.nil_append, List.cons_append] at hsteps
        rw [← (List.cons.inj hsteps).2, List.mem_singleton] at hlater
        subst hlater
        cases hfirst
  obtain ⟨result, u, hend, hwith, -⟩ := (huse rfl).1 0 hshared
  cases hwith
  exact ⟨results, t, t, hrun, hend⟩

end LambdaText
