import LambdaText.Proofs.Congruence.Operations
import LambdaText.Proofs.Eval.Ends

/-!
# Scopes that are shown

Code may ask for a scope as such: for the names in it, or for its global names. From then on it
compares what no other code can tell apart. A run in which that happens is lost: nothing is said of
it. It stays lost, for no computation takes back that a scope has been shown.
-/

namespace LambdaText

open LambdaText.Function LambdaText.Log

variable {α β σ : Type}

/-- Whether an end is lost: there is none, or a scope has been shown before it. -/
def IsLost (e : Option (Except Value α × State)) : Prop :=
  ∀ result t, e = some (result, t) → t.exposed = true

theorem isLost_none : IsLost (none : Option (Except Value α × State)) := fun _ _ h => nomatch h

theorem isLost_some {result : Except Value α} {t : State} (h : t.exposed = true) :
    IsLost (some (result, t)) := by
  rintro _ _ ⟨⟩
  exact h

/-- Whether a computation ends after a scope has been shown as such. -/
def Exposes (e : Option (Except Value α × State)) : Prop :=
  ∃ result t, e = some (result, t) ∧ t.exposed = true

theorem IsLost.eq_none {e : Option (Except Value α × State)} (h : IsLost e) (hshown : ¬ Exposes e) :
    e = none := by
  cases e with
  | none => rfl
  | some result => exact absurd ⟨result.1, result.2, rfl, h _ _ rfl⟩ hshown

theorem not_exposes_of_ends {e : Option (Except Value α × State)} {result : Except Value α}
    {t : State} (h : e = some (result, t)) (ht : t.exposed = false) : ¬ Exposes e := by
  rintro ⟨_, _, he, hshown⟩
  rw [h] at he
  cases he
  exact absurd hshown (ht ▸ Bool.false_ne_true)

/-- The same state, from which on it is noted whether a scope is shown. -/
def State.watched (s : State) : State := { s with exposed := false }

namespace Run

/-- Whether a computation is lost that starts after a scope has been shown. -/
def StaysLost (r : Run α) : Prop := ∀ s : State, s.exposed = true → IsLost (r.ends s)

theorem staysLost_of_ends {r : Run α} {result : Except Value α}
    (h : ∀ s, r.ends s = some (result, s)) : r.StaysLost := by
  intro s hs
  rw [h]
  exact isLost_some hs

theorem isLost_bind {r : Run α} {f : α → Run β} {s : State} (hr : IsLost (r.ends s))
    (hf : ∀ a, (f a).StaysLost) : IsLost ((r >>= f).ends s) := by
  rcases r.ends_cases s with hnone | ⟨e, t, herror⟩ | ⟨a, t, hok⟩
  · rw [ends_bind, hnone]
    exact isLost_none
  · rw [ends_bind_of_error herror]
    exact isLost_some (hr _ _ herror)
  · rw [ends_bind_of_ok hok]
    exact hf a t (hr _ _ hok)

theorem StaysLost.bind {r : Run α} {f : α → Run β} (hr : r.StaysLost)
    (hf : ∀ a, (f a).StaysLost) : (r >>= f).StaysLost :=
  fun s hs => isLost_bind (hr s hs) hf

theorem isLost_tryCatch {r : Run α} {handle : Value → Run α} {s : State} (hr : IsLost (r.ends s))
    (hh : ∀ e, (handle e).StaysLost) : IsLost ((tryCatch r handle : Run α).ends s) := by
  rw [ends_tryCatch]
  split
  · exact isLost_none
  · exact isLost_some (hr _ _ ‹_›)
  · exact hh _ _ (hr _ _ ‹_›)

theorem staysLost_get_bind {f : State → Run α} (hf : ∀ s, (f s).StaysLost) :
    ((get : Run State) >>= f).StaysLost :=
  fun s hs => hf s s hs

theorem staysLost_modify {g : State → State} (hg : ∀ s, s.exposed = true → (g s).exposed = true) :
    (modify g : Run PUnit).StaysLost :=
  fun s hs => isLost_some (hg s hs)

theorem staysLost_iterate {step : σ → Run (σ ⊕ α)} (h : ∀ n s, (repeatWithin step n s).StaysLost)
    (s : σ) : (iterate step s).StaysLost := by
  intro t ht result u hends
  obtain ⟨n, hn⟩ := exists_repeatWithin hends
  exact h n s t ht _ _ hn

theorem isLost_deeper {r : Run α} {s : State} (hdepth : s.depth < maxDepth)
    (h : IsLost (r.ends { s with depth := s.depth + 1 })) : IsLost ((deeper r).ends s) := by
  intro result t hends
  rw [ends_deeper hdepth] at hends
  obtain ⟨⟨result', t'⟩, hinner, heq⟩ := Option.map_eq_some_iff.1 hends
  cases heq
  exact h result' t' hinner

theorem StaysLost.deeper {r : Run α} (h : r.StaysLost) : (deeper r).StaysLost := by
  intro s hs
  by_cases hdepth : s.depth < maxDepth
  · exact isLost_deeper hdepth (h _ hs)
  · rw [Run.deeper, ends_get_bind, if_pos (Nat.not_lt.1 hdepth)]
    exact isLost_some hs

def losing : Relation := both fun _ r => r.StaysLost

instance congruence_losing : Congruence losing where
  pure _ := both_self (staysLost_of_ends fun _ => rfl)
  throw _ := both_self (staysLost_of_ends fun _ => rfl)
  diverge := both_self fun _ _ => isLost_none
  bind hr hf := ⟨hr.1.bind fun a => (hf a).1, hr.2.bind fun a => (hf a).2⟩
  limit h s := ⟨staysLost_iterate (fun n s => (h n s).1) s, staysLost_iterate (fun n s => (h n s).2) s⟩
  modifyGet h := both_self fun s hs => isLost_some (h.exposed s hs)

theorem staysLost_log (source : String) (level : Log.Level) (message : String) :
    (log source level message).StaysLost :=
  staysLost_modify fun _ h => h

theorem staysLost_fail (fault : Fault) : (LambdaText.fail fault : Run α).StaysLost := by
  have hthrow : (raiseFault fault.kind fault : Run α).StaysLost := staysLost_of_ends fun _ => rfl
  unfold LambdaText.fail
  cases fault.record? with
  | none => exact hthrow
  | some r => exact (staysLost_log _ _ _).bind fun _ => hthrow

theorem staysLost_newCompiler (settings : Settings) :
    (LambdaText.newCompiler settings).StaysLost := by
  have hpush (k : Compiler) : (modifyGet fun (s : State) => (s.compilers.size,
      { s with compilers := s.compilers.push k }) : Run Nat).StaysLost :=
    fun s hs => isLost_some hs
  have hmake (k : Compiler) (message : String) := (hpush k).bind fun address =>
    (staysLost_log compilerLog .debug message).bind fun _ =>
      staysLost_of_ends (r := pure address) fun _ => rfl
  unfold LambdaText.newCompiler
  dsimp only
  split
  · exact StaysLost.bind (staysLost_of_ends fun _ => rfl) fun _ => hmake _ _
  · exact hmake _ _

instance compilingCongruence_losing : CompilingCongruence losing where
  debug _ _ := both_self (staysLost_log _ _ _)
  fail fault := both_self (staysLost_fail fault)
  compilerSettings _ := both_self (staysLost_get_bind fun _ => staysLost_of_ends fun _ => rfl)
  compilerCache _ := both_self (staysLost_get_bind fun _ => staysLost_of_ends fun _ => rfl)
  newCompiler settings := both_self (staysLost_newCompiler settings)

/-- What holds of all congruences makes a computation stay lost. -/
theorem staysLost (r : Run α) [h : Respects losing r] : r.StaysLost := h.holds.2

end Run

end LambdaText
