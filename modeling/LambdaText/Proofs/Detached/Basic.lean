import LambdaText.Eval.Stmt
import LambdaText.Proofs.Congruence.Operations
import LambdaText.Proofs.Eval.SharedCompiler

/-!
# Computations apart from the surroundings

The surroundings of a computation are the log, the variables of the environment and the choice of
the shared compiler. A detached computation comes to the same and leaves the same in all
surroundings: it neither reads nor changes the last two, and it only writes to the log. It also
leaves only such entries in the caches of compilers as compiling made. This is a congruence between
a computation and itself.
-/

namespace LambdaText

open LambdaText.Code LambdaText.Function LambdaText.Log

/-- Whether a value is what compiling a text with settings gives, at whatever time. -/
def IsCompiledFrom (settings : Settings) (text : String) (v : Value) : Prop :=
  ∃ source names body serial serial' globals,
    compileResult settings text = .ok (source, names, body) ∧
    v = .compiled serial source (.function serial' (lambdaRoutine (names.map Parameter.plain) body)
      ⟨[], globals, ""⟩ "<lambda>" [])

theorem isCompiledFrom_compiledFunction {settings : Settings} {text : String} {source : Source}
    {f : List String × Expr} (h : compileResult settings text = .ok (source, f)) (serial : Nat)
    (s : State) : IsCompiledFrom settings text (.compiled serial source (compiledFunction s f)) :=
  ⟨source, f.1, f.2, _, _, _, h, rfl⟩

/-- Whether the cache of a compiler keeps nothing but what the compiler makes. -/
def Compiler.Sound (c : Compiler) : Prop :=
  ∀ cache ∈ c.cache, ∀ entry ∈ cache.entries, IsCompiledFrom c.settings entry.1 entry.2

/-- Whether all compilers keep nothing but what they make. -/
def State.Sound (s : State) : Prop := ∀ c ∈ s.compilers, c.Sound

theorem State.Sound.within {s : State} (h : s.Sound) (log : Array Log.Record)
    (environment : List (String × String)) (shared : Option Nat) :
    (s.within log environment shared).Sound := h

theorem State.sound_initial : State.Sound {} := by
  intro c hc
  simp at hc

namespace Run

variable {α β σ : Type}

/-- Whether a computation is the same in all surroundings, but for what it writes to the log. -/
def Blind (r : Run α) : Prop :=
  ∀ (s : State) (log : Array Log.Record) (environment : List (String × String))
    (shared : Option Nat), ∃ log', r.ends (s.within log environment shared) =
      (r.ends s).map fun e => (e.1, e.2.within log' environment shared)

/-- Whether a computation leaves all compilers sound. -/
def KeepsSound (r : Run α) : Prop :=
  ∀ ⦃s t : State⦄ ⦃result : Except Value α⦄, s.Sound → r.ends s = some (result, t) → t.Sound

theorem Blind.bind {r : Run α} {f : α → Run β} (hr : r.Blind) (hf : ∀ a, (f a).Blind) :
    (r >>= f).Blind := by
  intro s log environment shared
  obtain ⟨log', h⟩ := hr s log environment shared
  rw [ends_bind, ends_bind, h]
  cases r.ends s with
  | none => exact ⟨log', rfl⟩
  | some e =>
    obtain ⟨result, t⟩ := e
    cases result with
    | error e => exact ⟨log', rfl⟩
    | ok a => exact hf a t log' environment shared

theorem KeepsSound.bind {r : Run α} {f : α → Run β} (hr : r.KeepsSound)
    (hf : ∀ a, (f a).KeepsSound) : (r >>= f).KeepsSound := by
  intro s t result hs h
  obtain ⟨e, herror, rfl⟩ | ⟨a, u, hok, hrest⟩ := ends_bind_cases h
  · exact hr hs herror
  · exact hf a (hr hs hok) hrest

theorem blind_iterate {step : σ → Run (σ ⊕ α)} (h : ∀ n s, (repeatWithin step n s).Blind) (s : σ) :
    (iterate step s).Blind := by
  intro t log environment shared
  obtain ⟨n, hn, hn'⟩ := exists_bound_two step s t (t.within log environment shared)
  rw [← hn, ← hn']
  exact h n s t log environment shared

theorem blind_modify {g : State → State}
    (h : ∀ s log environment shared, g (s.within log environment shared) =
      (g s).within log environment shared) : (modify g : Run PUnit).Blind :=
  fun s log environment shared => ⟨log, by simp only [ends_modify, h, Option.map_some]⟩

theorem blind_modifyGet {g : State → α × State}
    (h : ∀ s log environment shared, g (s.within log environment shared) =
      ((g s).1, (g s).2.within log environment shared)) : (modifyGet g : Run α).Blind :=
  fun s log environment shared => ⟨log, by simp only [ends_modifyGet, h, Option.map_some]⟩

theorem blind_get_bind {f : State → Run α} (hf : ∀ s, (f s).Blind)
    (h : ∀ s log environment shared, f (s.within log environment shared) = f s) :
    ((get : Run State) >>= f).Blind := by
  intro s log environment shared
  rw [ends_get_bind, ends_get_bind, h]
  exact hf s s log environment shared

theorem keepsSound_modify {g : State → State} (hg : ∀ s, (g s).compilers = s.compilers) :
    (modify g : Run PUnit).KeepsSound := by
  intro s t result hs h
  cases h
  exact fun c hc => hs c (hg s ▸ hc)

theorem keepsSound_get_bind {f : State → Run α} (hf : ∀ s, (f s).KeepsSound) :
    ((get : Run State) >>= f).KeepsSound :=
  fun s _ _ hs h => hf s hs h

/-- A computation that is the same in all surroundings and leaves all compilers sound. -/
structure IsDetached (r : Run α) : Prop where
  blind : r.Blind
  sound : r.KeepsSound

def detaching : Relation := both fun _ r => r.IsDetached

/-- A computation that is the same in all surroundings and leaves all compilers sound. -/
abbrev Detached (r : Run α) : Prop := Respects detaching r

theorem IsDetached.detached {r : Run α} (h : r.IsDetached) : r.Detached := ⟨h, h⟩

theorem isDetached_of_ends {r : Run α} {result : Except Value α}
    (h : ∀ s, r.ends s = some (result, s)) : r.IsDetached where
  blind s log environment shared := ⟨log, by rw [h, h]; rfl⟩
  sound _ _ _ hs hend := by
    rw [h] at hend
    cases hend
    exact hs

theorem IsDetached.bind {r : Run α} {f : α → Run β} (hr : r.IsDetached)
    (hf : ∀ a, (f a).IsDetached) : (r >>= f).IsDetached :=
  ⟨hr.blind.bind fun a => (hf a).blind, hr.sound.bind fun a => (hf a).sound⟩

theorem isDetached_diverge : (diverge : Run α).IsDetached :=
  ⟨fun _ log _ _ => ⟨log, rfl⟩, fun _ _ _ _ h => by cases h⟩

theorem isDetached_iterate {step : σ → Run (σ ⊕ α)}
    (h : ∀ n s, (repeatWithin step n s).IsDetached) (s : σ) : (iterate step s).IsDetached where
  blind := blind_iterate (fun n s => (h n s).blind) s
  sound _ _ _ hs hend := by
    obtain ⟨n, hn⟩ := exists_repeatWithin hend
    exact (h n s).sound hs hn

theorem isDetached_modifyGet {g : State → α × State} (h : IsLocal g) :
    (modifyGet g : Run α).IsDetached where
  blind := blind_modifyGet h.within
  sound s _ _ hs hend := by
    cases hend
    exact fun c hc => hs c (h.compilers s ▸ hc)

theorem isDetached_log (source : String) (level : Log.Level) (message : String) :
    (log source level message).IsDetached where
  blind _ log _ _ := ⟨log.push ⟨source, level, message⟩, rfl⟩
  sound _ _ _ hs h := by
    cases h
    exact hs

theorem isDetached_get_bind {f : State → Run α} (hf : ∀ s, (f s).IsDetached)
    (h : ∀ s log environment shared, f (s.within log environment shared) = f s) :
    ((get : Run State) >>= f).IsDetached :=
  ⟨blind_get_bind (fun s => (hf s).blind) h, keepsSound_get_bind fun s => (hf s).sound⟩

theorem isDetached_fail (fault : Fault) : (LambdaText.fail fault : Run α).IsDetached := by
  have hthrow : (raiseFault fault.kind fault : Run α).IsDetached := isDetached_of_ends fun _ => rfl
  unfold LambdaText.fail
  cases fault.record? with
  | none => exact hthrow
  | some r => exact (isDetached_log r.source r.level r.message).bind fun _ => hthrow

/-- A new compiler keeps nothing yet. -/
theorem isDetached_newCompiler (settings : Settings) :
    (LambdaText.newCompiler settings).IsDetached := by
  have hpush : (modifyGet fun (s : State) => (s.compilers.size,
      { s with compilers := s.compilers.push settings.compiler }) : Run Nat).IsDetached := by
    refine ⟨blind_modifyGet fun _ _ _ _ => rfl, fun s t result hs h => ?_⟩
    cases h
    intro c hc
    obtain hold | rfl := Array.mem_push.1 hc
    · exact hs c hold
    · rintro cache hcache entry hentry
      obtain hnone | ⟨cache', hsome, hempty⟩ := compiler_cache_cases settings
      · rw [hnone] at hcache
        cases hcache
      · rw [hsome] at hcache
        cases hcache
        rw [hempty] at hentry
        cases hentry
  have hmake : (do
      let address ← modifyGet fun (s : State) =>
        (s.compilers.size, { s with compilers := s.compilers.push settings.compiler })
      Run.log compilerLog .debug s!"LambdaCompiler initialized (cache_size={settings.cacheSize})"
      return address : Run Nat).IsDetached :=
    hpush.bind fun _ => (isDetached_log _ _ _).bind fun _ => isDetached_of_ends fun _ => rfl
  have hnew : LambdaText.newCompiler settings = (do
      if maxCapacity ≤ settings.cacheSize then
        Run.raise "OverflowError" "Python int too large to convert to C ssize_t"
      let address ← modifyGet fun (s : State) =>
        (s.compilers.size, { s with compilers := s.compilers.push settings.compiler })
      Run.log compilerLog .debug s!"LambdaCompiler initialized (cache_size={settings.cacheSize})"
      return address) := rfl
  rw [hnew]
  dsimp only
  split
  · exact IsDetached.bind (isDetached_of_ends fun _ => rfl) fun _ => hmake
  · exact hmake

instance congruence_detaching : Congruence detaching where
  pure _ := both_self (isDetached_of_ends fun _ => rfl)
  throw _ := both_self (isDetached_of_ends fun _ => rfl)
  diverge := both_self isDetached_diverge
  bind hr hf := ⟨hr.1.bind fun a => (hf a).1, hr.2.bind fun a => (hf a).2⟩
  limit h s :=
    ⟨isDetached_iterate (fun n s => (h n s).1) s, isDetached_iterate (fun n s => (h n s).2) s⟩
  modifyGet h := both_self (isDetached_modifyGet h)

instance compilingCongruence_detaching : CompilingCongruence detaching where
  debug _ _ := both_self (isDetached_log _ _ _)
  fail fault := both_self (isDetached_fail fault)
  compilerSettings _ := both_self
    (isDetached_get_bind (fun _ => isDetached_of_ends fun _ => rfl) fun _ _ _ _ => rfl)
  compilerCache _ := both_self
    (isDetached_get_bind (fun _ => isDetached_of_ends fun _ => rfl) fun _ _ _ _ => rfl)
  newCompiler settings := both_self (isDetached_newCompiler settings)

theorem Detached.blind {r : Run α} (h : r.Detached) : r.Blind := h.holds.2.blind

theorem Detached.sound {r : Run α} (h : r.Detached) : r.KeepsSound := h.holds.2.sound

instance detached_throw (e : Value) : (throw e : Run α).Detached :=
  (isDetached_of_ends fun _ => rfl).detached

instance detached_raiseFault (kind : String) (fault : Fault) :
    (raiseFault kind fault : Run α).Detached :=
  detached_throw _

instance detached_log (source : String) (level : Log.Level) (message : String) :
    (log source level message).Detached :=
  (isDetached_log source level message).detached

/-- Going on with a part of the state that is not in the surroundings. -/
theorem detached_get_bind {f : State → Run α} (hf : ∀ s, (f s).Detached)
    (h : ∀ s log environment shared, f (s.within log environment shared) = f s) :
    ((get : Run State) >>= f).Detached :=
  (isDetached_get_bind (fun s => (hf s).holds.2) h).detached

instance detached_tryCatch (r : Run α) (handle : Value → Run α) [hr : r.Detached]
    [hh : ∀ e, (handle e).Detached] : (tryCatch r handle : Run α).Detached := by
  refine IsDetached.detached ⟨fun s log environment shared => ?_, fun s t result hs h => ?_⟩
  · obtain ⟨log', h⟩ := hr.blind s log environment shared
    rw [ends_tryCatch, ends_tryCatch, h]
    cases r.ends s with
    | none => exact ⟨log', rfl⟩
    | some e =>
      obtain ⟨result, t⟩ := e
      cases result with
      | ok a => exact ⟨log', rfl⟩
      | error e => exact (hh e).blind t log' environment shared
  · rw [ends_tryCatch] at h
    cases hfirst : r.ends s with
    | none => simp [hfirst] at h
    | some e =>
      obtain ⟨first, u⟩ := e
      rw [hfirst] at h
      have hu := hr.sound hs hfirst
      cases first with
      | ok a =>
        cases h
        exact hu
      | error e => exact (hh e).sound hu h

/-- Running a function one level deeper. -/
instance detached_deeper (r : Run α) [r.Detached] : (deeper r).Detached := by
  refine detached_get_bind (fun s => ?_) fun _ _ _ _ => rfl
  have hmodify : ∀ depth, (modify fun s => { s with depth } : Run PUnit).Detached :=
    fun _ => respects_modify (fun _ _ _ _ => rfl) (fun _ => rfl) fun _ h => h
  refine @related_ite _ _ _ _ _ _ _ _ inferInstance ?_
  refine .bind (hmodify _) fun _ => .bind inferInstance fun result => .bind (hmodify _) fun _ => ?_
  cases result <;> infer_instance

end Run

end LambdaText
