import LambdaText.Proofs.Congruence.Operations
import LambdaText.Proofs.Detached.Evaluator

/-!
# Public operations keep compilers sound

Reading the environment and using the shared compiler are not detached, but they too leave only
such entries in the caches as compiling made. So do all operations, and every state that operations
and calls lead to is sound.
-/

namespace LambdaText

open LambdaText.Function LambdaText.Log

namespace Run

variable {α β σ : Type}

def sounding : Relation := both fun _ r => r.KeepsSound

/-- A computation that leaves all compilers sound. -/
abbrev Sound (r : Run α) : Prop := Respects sounding r

theorem Sound.sound {r : Run α} (h : r.Sound) : r.KeepsSound := h.holds.2

theorem keepsSound_iterate {step : σ → Run (σ ⊕ α)}
    (h : ∀ n s, (repeatWithin step n s).KeepsSound) (s : σ) : (iterate step s).KeepsSound := by
  intro t u result ht hend
  obtain ⟨n, hn⟩ := exists_repeatWithin hend
  exact h n s ht hn

instance congruence_sounding : Congruence sounding where
  pure _ := both_self (Detached.sound inferInstance)
  throw _ := both_self (Detached.sound inferInstance)
  diverge := both_self (Detached.sound inferInstance)
  bind hr hf := ⟨hr.1.bind fun a => (hf a).1, hr.2.bind fun a => (hf a).2⟩
  limit h s :=
    ⟨keepsSound_iterate (fun n s => (h n s).1) s, keepsSound_iterate (fun n s => (h n s).2) s⟩
  modifyGet h := both_self (isDetached_modifyGet h).sound

instance compilingCongruence_sounding : CompilingCongruence sounding where
  debug _ _ := both_self (Detached.sound inferInstance)
  fail _ := both_self (Detached.sound inferInstance)
  compilerSettings _ := both_self (Detached.sound inferInstance)
  compilerCache _ := both_self (Detached.sound inferInstance)
  newCompiler _ := both_self (Detached.sound inferInstance)

instance sound_of_detached (r : Run α) [hr : r.Detached] : r.Sound := ⟨both_self hr.sound⟩

end Run

/-! ### The shared compiler -/

theorem keepsSound_environmentSettings : environmentSettings.KeepsSound :=
  Run.keepsSound_get_bind fun _ => Run.Detached.sound inferInstance

theorem keepsSound_sharedCompiler : sharedCompiler.KeepsSound := by
  have hset (address : Nat) :
      (modify fun s => { s with shared := some address } : Run PUnit).KeepsSound :=
    Run.keepsSound_modify fun _ => rfl
  refine Run.keepsSound_get_bind fun s => ?_
  split
  · exact Run.Detached.sound inferInstance
  · exact .bind keepsSound_environmentSettings fun _ => .bind (Run.Detached.sound inferInstance)
      fun address => .bind (hset address) fun _ => Run.Detached.sound inferInstance

instance detached_refuse (v : Value) : (refuse v).Detached := by
  unfold refuse
  infer_instance

instance libraryCongruence_sounding : LibraryCongruence Run.sounding where
  compileWith {m₀ m} _ address text given :=
    have hcompile (settings : Settings) (text given : Value) :
        Run.both (fun _ r => r.KeepsSound) Value (compileText m₀ settings text given)
          (compileText m settings text given) :=
      (related_compileText (R := Run.sounding) m₀ m settings text given).holds
    ⟨keepsSound_compileWith (fun settings text given => (hcompile settings text given).1) address
        text given,
      keepsSound_compileWith (fun settings text given => (hcompile settings text given).2) address
        text given⟩
  refuse _ := Run.both_self (Run.Detached.sound inferInstance)
  environmentSettings := Run.both_self keepsSound_environmentSettings
  sharedCompiler := Run.both_self keepsSound_sharedCompiler
  resetShared := Run.both_self (Run.keepsSound_modify fun _ => rfl)

instance (m : Machine) [m.Detached] : m.Related Run.sounding m where
  call _ _ _ := inferInstance
  advance _ := inferInstance

end LambdaText
