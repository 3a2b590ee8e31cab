import LambdaText.Eval.Levels
import LambdaText.Proofs.Library.Answers
import LambdaText.Proofs.Logged.Basic

/-!
# Calls of the library log their faults once

A call of the library that fails with a fault adds the record of this fault, as its last one, and no
other record of an error; a call that ends well adds none. That something is no text is the only
fault without a record. Functions that are called on the way have to keep to the same rule.
-/

namespace LambdaText

open LambdaText.Log

/-! ### Machines that log the faults of their calls -/

open Classical in
/-- A computation as far as it logs its faults; where it does not, it does not end. -/
noncomputable def Run.whereLogged {α : Type} (r : Run α) : Run α := fun s =>
  (r.ends s).filter fun e =>
    decide (∃ added, e.2.log.toList = s.log.toList ++ added ∧ RecordsFit added e.1)

theorem Run.ends_whereLogged {α : Type} {r : Run α} {s t : State} {result : Except Value α}
    (h : r.whereLogged.ends s = some (result, t)) : r.ends s = some (result, t) ∧
      ∃ added, t.log.toList = s.log.toList ++ added ∧ RecordsFit added result := by
  obtain ⟨hends, hfit⟩ := Option.filter_eq_some_iff.1 h
  exact ⟨hends, by simpa using hfit⟩

/-- The machine that answers the calls that log their faults as another one does, and no others. -/
noncomputable def Machine.whereLogged (m : Machine) : Machine where
  expr scope e := (m.expr scope e).whereLogged
  block scope stmts := (m.block scope stmts).whereLogged
  call f positions keywords := (m.call f positions keywords).whereLogged
  advance address := (m.advance address).whereLogged

instance logged_whereLogged (m : Machine) : m.whereLogged.Related Run.logging m.whereLogged where
  call _ _ _ := ⟨Run.both_self fun _ _ _ h => (Run.ends_whereLogged h).2⟩
  advance _ := ⟨Run.both_self fun _ _ _ h => (Run.ends_whereLogged h).2⟩

instance agrees_whereLogged (m : Machine) : m.whereLogged.Related Run.agreeing m where
  call _ _ _ := ⟨fun _ _ _ h => (Run.ends_whereLogged h).1⟩
  advance _ := ⟨fun _ _ _ h => (Run.ends_whereLogged h).1⟩

/-! ### Calls -/

/-- The calls of the library: reading and compiling with settings or a compiler, and the operations. -/
inductive LibraryCall where
  | read (settings : Settings) (text : Value)
  | readBlock (text : Value)
  | compile (address : Nat) (text given : Value)
  | compileBlock (text given : Value)
  | operation (op : Operation) (name : String) (positions : List Value) (keywords : Keywords)

def LibraryCall.run (m : Machine) : LibraryCall → Run Value
  | read settings text => do
    let s ← readSource settings text
    return .source (← Run.fresh) s
  | readBlock text => do
    let s ← readBlockSource text
    return .source (← Run.fresh) s
  | compile address text given => compileWith m address text given
  | compileBlock text given => LambdaText.compileBlock m text given
  | operation op name positions keywords => op.invokeWith m name positions keywords

instance related_libraryCall {R : Run.Relation} [LibraryCongruence R] (m₀ m : Machine)
    [m₀.Related R m] (c : LibraryCall) : Run.Related R (c.run m₀) (c.run m) := by
  cases c <;> unfold LibraryCall.run <;> infer_instance

/-- The log of the part of the library that a fault belongs to. -/
def Fault.source : Fault → String
  | notText | invalidParameter _ _ | repeatedParameter _ _ => readingLog
  | emptyBody _ | invalidBody _ | invalidFunction _ | invalidBlock _ => compilerLog
  | notCallable _ _ => coercionLog
  | invalidCount _ => partialLog

/-- Every fault but one has a record of an error in the log of its part of the library. -/
theorem Fault.record?_of_ne {fault : Fault} (h : fault ≠ .notText) :
    ∃ r, fault.record? = some r ∧ r.source = fault.source ∧ r.level = .error := by
  cases fault with
  | notText => exact absurd rfl h
  | _ => exact ⟨_, rfl, rfl, rfl⟩

/-- A call of the library, all of whose calls of functions log their faults, leaves no record of an
error if it ends well. If it fails with a fault other than that something is no text, it leaves
exactly one such record, that of the fault, in the log of the part of the library that failed, and
as its last record. That something is no text is not logged. A call that calls no function is one of
these calls, whatever the machine. -/
theorem faults_logged_once (m : Machine) (c : LibraryCall) (s : State) :
    (∀ result t, (c.run m.whereLogged).ends s = some (result, t) →
      (c.run m).ends s = some (result, t) ∧ ∃ added, t.log.toList = s.log.toList ++ added ∧
        (∀ v, result = .ok v → errorsAmong added = []) ∧
        (∀ e fault, result = .error e → e.fault? = some fault → fault ≠ .notText →
          ∃ r, errorsAmong added = [r] ∧ added.getLast? = some r ∧ fault.record? = some r ∧
            r.source = fault.source ∧ r.level = .error) ∧
        ∀ e, result = .error e → e.fault? = some .notText → errorsAmong added = []) ∧
      ∀ result t, (c.run .silent).ends s = some (result, t) →
        (c.run m.whereLogged).ends s = some (result, t) := by
  refine ⟨fun result t h => ⟨Run.Below.ends inferInstance h, ?_⟩,
    fun result t h => Run.Below.ends inferInstance h⟩
  obtain ⟨added, hlog, hfit⟩ := Run.Logged.logsFaults inferInstance h
  refine ⟨added, hlog, fun v hv => ?_, fun e fault he hfault hne => ?_, fun e he hfault => ?_⟩
  · subst hv
    exact hfit
  · subst he
    obtain ⟨r, hrecord, hsource, hlevel⟩ := Fault.record?_of_ne hne
    simp only [RecordsFit, hfault, hrecord, Option.toList_some] at hfit
    exact ⟨r, hfit.1, hfit.2 r rfl, hrecord, hsource, hlevel⟩
  · subst he
    simp only [RecordsFit, hfault] at hfit
    exact hfit.1

/-- A number of arguments below zero is refused with one record. -/
theorem faults_logged_once_count :
    ∃ fault t r, ((LibraryCall.operation (.countedCurry false) "ncurry" [.int (-1), .builtin "len"]
        []).run machine).ends {} = some (.error (faultError fault), t) ∧
      t.log.toList = [r] ∧ r.source = partialLog ∧ r.level = .error := by
  let fault := Fault.invalidCount "-1"
  obtain ⟨hlogged, hsilent⟩ := faults_logged_once machine
    (.operation (.countedCurry false) "ncurry" [.int (-1), .builtin "len"] []) {}
  obtain ⟨hends, added, hadded, -, hfault, -⟩ := hlogged (.error (faultError fault)) _
    (hsilent _ { log := #[⟨partialLog, .error, "Invalid argument count for ncurry: -1"⟩] } rfl)
  obtain ⟨r, -, hlast, hrecord, hsource, hlevel⟩ := hfault _ fault rfl rfl (by decide)
  cases hrecord
  exact ⟨fault, _, _, hends, rfl, rfl, rfl⟩

/-- That a number is no text is raised and not logged. -/
theorem unreadable_number_unlogged :
    ∃ t, ((LibraryCall.operation .compileLambda "compile_lambda" [.int 1] []).run machine).ends {} =
        some (.error (faultError .notText), t) ∧ errorsAmong t.log.toList = [] := by
  refine ⟨_, rfl, ?_⟩
  decide

end LambdaText
