import LambdaText.Proofs.Congruence.Operations
import LambdaText.Proofs.Eval.Compiling

/-!
# Computations that log their faults

A computation logs its faults if it adds the record of a fault exactly when it fails with it, as the
last one, and no other record of an error. This is a congruence between a computation and itself, so
operations log their faults if the functions that they call do. What is put together from steps on
values alone logs nothing and fails with no fault.
-/

namespace LambdaText

open LambdaText.Code LambdaText.Function LambdaText.Log

@[simp] theorem fault?_faultError (fault : Fault) : (faultError fault).fault? = some fault := rfl

def errorsAmong (records : List Record) : List Record :=
  records.filter fun r => r.level = .error

/-- Whether the records that a computation adds fit the way it ends: there is no record of an error
if it ends well, and the record of the fault comes last and is the only one if it fails with a fault.
Of another failure there is at most one. -/
def RecordsFit {α : Type} (added : List Record) : Except Value α → Prop
  | .ok _ => errorsAmong added = []
  | .error e =>
    match e.fault? with
    | some fault => errorsAmong added = fault.record?.toList ∧
        ∀ r, fault.record? = some r → added.getLast? = some r
    | none => (errorsAmong added).length ≤ 1

section

variable {α β : Type} {before added : List Record}

theorem errorsAmong_append (before added : List Record) :
    errorsAmong (before ++ added) = errorsAmong before ++ errorsAmong added :=
  List.filter_append ..

theorem recordsFit_nil {e : Value} (h : e.fault? = none) :
    RecordsFit [] (.error e : Except Value α) := by
  simp [RecordsFit, h, errorsAmong]

/-- Records that are about no errors may come before. -/
theorem RecordsFit.after {result : Except Value α} (h : RecordsFit added result)
    (hbefore : errorsAmong before = []) : RecordsFit (before ++ added) result := by
  cases result with
  | ok a =>
    rw [RecordsFit, errorsAmong_append, hbefore]
    exact h
  | error e =>
    cases hfault : e.fault? with
    | none =>
      simp only [RecordsFit, hfault, errorsAmong_append, hbefore, List.nil_append] at h ⊢
      exact h
    | some fault =>
      simp only [RecordsFit, hfault, errorsAmong_append, hbefore, List.nil_append] at h ⊢
      refine ⟨h.1, fun r hr => ?_⟩
      rw [List.getLast?_append, h.2 r hr, Option.some_or]

theorem RecordsFit.passedOn {e : Value} (h : RecordsFit added (.error e : Except Value α)) :
    RecordsFit added (.error e : Except Value β) := h

theorem recordsFit_faultError (fault : Fault) :
    RecordsFit fault.record?.toList (.error (faultError fault) : Except Value α) := by
  have herror : ∀ r, fault.record? = some r → r.level = .error := by
    cases fault <;> simp +contextual [Fault.record?, eq_comm]
  unfold RecordsFit
  simp only [fault?_faultError]
  cases hrecord : fault.record? with
  | none => simp [errorsAmong]
  | some r => simp [errorsAmong, herror r hrecord]

end

namespace Run

variable {α β σ : Type}

/-! ### No records -/

/-- Whether a computation logs nothing and fails with no fault of the library. -/
def IsFaultless (r : Run α) : Prop :=
  ∀ ⦃s t : State⦄ ⦃result : Except Value α⦄, r.ends s = some (result, t) →
    t.log = s.log ∧ ∀ e, result = .error e → e.fault? = none

theorem isFaultless_pure (a : α) : (pure a : Run α).IsFaultless := by
  intro s t result h
  cases h
  exact ⟨rfl, nofun⟩

theorem IsFaultless.bind {r : Run α} {f : α → Run β} (hr : r.IsFaultless)
    (hf : ∀ a, (f a).IsFaultless) : (r >>= f).IsFaultless := by
  intro s t result h
  obtain ⟨e, herror, rfl⟩ | ⟨a, u, hok, hrest⟩ := ends_bind_cases h
  · obtain ⟨hlog, hfault⟩ := hr herror
    exact ⟨hlog, fun e' he' => by cases he'; exact hfault e rfl⟩
  · obtain ⟨hlog, hfault⟩ := hf a hrest
    exact ⟨hlog.trans (hr hok).1, hfault⟩

theorem isFaultless_iterate {step : σ → Run (σ ⊕ α)}
    (h : ∀ n s, (repeatWithin step n s).IsFaultless) (s : σ) : (iterate step s).IsFaultless := by
  intro t u result hend
  obtain ⟨n, hn⟩ := exists_repeatWithin hend
  exact h n s hn

def faultless : Relation := both fun _ r => r.IsFaultless

/-- A computation that logs nothing and fails with no fault of the library. -/
abbrev Faultless (r : Run α) : Prop := Respects faultless r

theorem Faultless.isFaultless {r : Run α} (h : r.Faultless) : r.IsFaultless := h.holds.2

instance congruence_faultless : Congruence faultless where
  pure a := both_self (isFaultless_pure a)
  throw he := both_self fun _ _ _ h => by
    cases h
    exact ⟨rfl, fun e' he' => by cases he'; exact he⟩
  diverge := both_self fun _ _ _ h => by cases h
  bind hr hf := ⟨hr.1.bind fun a => (hf a).1, hr.2.bind fun a => (hf a).2⟩
  limit h s :=
    ⟨isFaultless_iterate (fun n s => (h n s).1) s, isFaultless_iterate (fun n s => (h n s).2) s⟩
  modifyGet h := both_self fun s _ _ hend => by
    cases hend
    exact ⟨h.log s, nofun⟩

/-! ### Records of faults -/

/-- Whether a computation adds records that fit the way it ends. -/
def LogsFaults (r : Run α) : Prop :=
  ∀ ⦃s t : State⦄ ⦃result : Except Value α⦄, r.ends s = some (result, t) →
    ∃ added, t.log.toList = s.log.toList ++ added ∧ RecordsFit added result

def logging : Relation := both fun _ r => r.LogsFaults

/-- A computation that logs its faults. -/
abbrev Logged (r : Run α) : Prop := Respects logging r

theorem Logged.logsFaults {r : Run α} (h : r.Logged) : r.LogsFaults := h.holds.2

theorem logsFaults_pure (a : α) : (pure a : Run α).LogsFaults := by
  intro s t result h
  cases h
  exact ⟨[], (List.append_nil _).symm, rfl⟩

theorem logsFaults_throw {e : Value} (he : e.fault? = none) : (throw e : Run α).LogsFaults := by
  intro s t result h
  cases h
  exact ⟨[], (List.append_nil _).symm, recordsFit_nil he⟩

theorem LogsFaults.bind {r : Run α} {f : α → Run β} (hr : r.LogsFaults)
    (hf : ∀ a, (f a).LogsFaults) : (r >>= f).LogsFaults := by
  intro s t result h
  obtain ⟨e, herror, rfl⟩ | ⟨a, u, hok, hrest⟩ := ends_bind_cases h
  · obtain ⟨added, hlog, hfit⟩ := hr herror
    exact ⟨added, hlog, hfit.passedOn⟩
  · obtain ⟨before, hlog, hbefore⟩ := hr hok
    obtain ⟨added, hlog', hfit⟩ := hf a hrest
    exact ⟨before ++ added, by rw [hlog', hlog, List.append_assoc], hfit.after hbefore⟩

theorem logsFaults_iterate {step : σ → Run (σ ⊕ α)}
    (h : ∀ n s, (repeatWithin step n s).LogsFaults) (s : σ) : (iterate step s).LogsFaults := by
  intro t u result hend
  obtain ⟨n, hn⟩ := exists_repeatWithin hend
  exact h n s hn

/-- A step that leaves the log alone. -/
theorem logsFaults_modifyGet {g : State → α × State} (h : ∀ s, (g s).2.log = s.log) :
    (modifyGet g : Run α).LogsFaults := by
  intro s t result hend
  cases hend
  exact ⟨[], by rw [h, List.append_nil], rfl⟩

theorem logsFaults_modify {g : State → State} (h : ∀ s, (g s).log = s.log) :
    (modify g : Run PUnit).LogsFaults :=
  logsFaults_modifyGet fun s => h s

theorem logsFaults_get_bind {f : State → Run α} (hf : ∀ s, (f s).LogsFaults) :
    ((get : Run State) >>= f).LogsFaults :=
  fun s _ _ h => hf s h

theorem logsFaults_debug (source message : String) : (log source .debug message).LogsFaults := by
  intro s t result h
  cases h
  exact ⟨[⟨source, .debug, message⟩], Array.toList_push .., rfl⟩

theorem logsFaults_fail (fault : Fault) : (LambdaText.fail fault : Run α).LogsFaults := by
  intro s t result h
  refine ⟨fault.record?.toList, ?_, ?_⟩
  · unfold LambdaText.fail at h
    cases hrecord : fault.record? with
    | none =>
      rw [hrecord] at h
      cases h
      exact (List.append_nil _).symm
    | some r =>
      rw [hrecord] at h
      cases h
      exact Array.toList_push ..
  · obtain ⟨log, hfail⟩ := ends_fail (α := α) fault s
    rw [hfail] at h
    cases h
    exact recordsFit_faultError fault

theorem logsFaults_newCompiler (settings : Settings) :
    (LambdaText.newCompiler settings).LogsFaults := by
  have hadd : (do
      let address ← modifyGet fun s : State =>
        (s.compilers.size, { s with compilers := s.compilers.push settings.compiler })
      log compilerLog .debug s!"LambdaCompiler initialized (cache_size={settings.cacheSize})"
      return address : Run Nat).LogsFaults :=
    .bind (logsFaults_modifyGet fun _ => rfl) fun address =>
      (logsFaults_debug _ _).bind fun _ => logsFaults_pure address
  have hnew : LambdaText.newCompiler settings = (do
      if maxCapacity ≤ settings.cacheSize then
        raise "OverflowError" "Python int too large to convert to C ssize_t"
      let address ← modifyGet fun (s : State) =>
        (s.compilers.size, { s with compilers := s.compilers.push settings.compiler })
      log compilerLog .debug s!"LambdaCompiler initialized (cache_size={settings.cacheSize})"
      return address) := rfl
  rw [hnew]
  dsimp only
  split
  · exact .bind (logsFaults_throw rfl) fun _ => hadd
  · exact hadd

instance congruence_logging : Congruence logging where
  pure a := both_self (logsFaults_pure a)
  throw he := both_self (logsFaults_throw he)
  diverge := both_self fun _ _ _ h => by cases h
  bind hr hf := ⟨hr.1.bind fun a => (hf a).1, hr.2.bind fun a => (hf a).2⟩
  limit h s :=
    ⟨logsFaults_iterate (fun n s => (h n s).1) s, logsFaults_iterate (fun n s => (h n s).2) s⟩
  modifyGet h := both_self (logsFaults_modifyGet h.log)

instance compilingCongruence_logging : CompilingCongruence logging where
  debug source message := both_self (logsFaults_debug source message)
  fail fault := both_self (logsFaults_fail fault)
  compilerSettings _ := both_self (logsFaults_get_bind fun _ => logsFaults_pure _)
  compilerCache _ := both_self (logsFaults_get_bind fun _ => logsFaults_pure _)
  newCompiler settings := both_self (logsFaults_newCompiler settings)

end Run

/-! ### Coercion -/

/-- What is neither a text nor callable is refused after that has been logged, also if the value
cannot be written. -/
theorem logsFaults_refuse (v : Value) : (refuse v).LogsFaults := by
  intro s t result h
  rw [ends_refuse] at h
  obtain ⟨e, herror, rfl⟩ | ⟨text, u, hok, hrest⟩ := Run.ends_bind_cases h
  · obtain ⟨hlog, hfault⟩ := Run.Faultless.isFaultless (r := shown v) inferInstance herror
    refine ⟨[⟨coercionLog, .error, refusalMessage v.kindName⟩],
      by rw [hlog]; exact Array.toList_push .., ?_⟩
    simp [RecordsFit, hfault e rfl, errorsAmong]
  · cases hrest
    obtain ⟨hlog, -⟩ := Run.Faultless.isFaultless (r := shown v) inferInstance hok
    exact ⟨[⟨coercionLog, .error, refusalMessage v.kindName⟩],
      by rw [hlog]; exact Array.toList_push ..,
      recordsFit_faultError (.notCallable v.kindName text)⟩

theorem logsFaults_environmentSettings : environmentSettings.LogsFaults :=
  Run.logsFaults_get_bind fun _ => Run.Logged.logsFaults inferInstance

theorem logsFaults_sharedCompiler : sharedCompiler.LogsFaults := by
  refine Run.logsFaults_get_bind fun s => ?_
  split
  · exact Run.logsFaults_pure _
  · exact .bind logsFaults_environmentSettings fun settings =>
      (Run.logsFaults_newCompiler settings).bind fun address =>
        .bind (Run.logsFaults_modify fun _ => rfl) fun _ => Run.logsFaults_pure address

instance libraryCongruence_logging : LibraryCongruence Run.logging where
  compileWith {m₀ m} _ address text given :=
    (related_compileWith_of_setCache (R := Run.logging) m₀ m
      (fun _ _ => ⟨Run.both_self (Run.logsFaults_modify fun _ => rfl)⟩) address text given).holds
  refuse v := Run.both_self (logsFaults_refuse v)
  environmentSettings := Run.both_self logsFaults_environmentSettings
  sharedCompiler := Run.both_self logsFaults_sharedCompiler
  resetShared := Run.both_self (Run.logsFaults_modify fun _ => rfl)

end LambdaText
