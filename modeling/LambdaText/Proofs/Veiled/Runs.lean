import LambdaText.Proofs.Detached.Evaluator
import LambdaText.Proofs.Eval.Frames
import LambdaText.Proofs.Veiled.Facts
import LambdaText.Proofs.Veiled.Lost

/-!
# Computations apart from a hidden cell

Two states are alike if they differ only in the hidden cell, whose entries agree on the agreed
names, in what the hidden compiler keeps, in which of the frames of a row lists a name, and in the
log. A computation is apart if from states that are alike it comes to the same and leaves states
that are alike, and nothing of what it gives leads to what is hidden, unless a scope is shown on the
way. What is put together from such computations is apart.
-/

namespace LambdaText

open LambdaText.Code LambdaText.Function

/-! ### States that are alike -/

/-- Whether the frames of a row give the same names the same values on two sides, whichever of them
lists a name. -/
def SharesOut (frames frames' : Array Frame) (row : List Nat) : Prop :=
  ∃ layers layers', List.Forall₂ (Lists frames) row layers ∧ List.Forall₂ (Lists frames') row layers' ∧
    ∀ name, layers'.flatten.lookup name = layers.flatten.lookup name

theorem Lists.of_keeps {frames more : Array Frame} {row : List Nat}
    {layers : List (List (String × Value))} (h : List.Forall₂ (Lists frames) row layers)
    (hkeeps : ∀ a ∈ row, ∀ f, frames[a]? = some f → more[a]? = some f) :
    List.Forall₂ (Lists more) row layers := by
  induction h with
  | nil => exact .nil
  | cons hfirst _ ih =>
    obtain ⟨f, hf, hlayer⟩ := hfirst
    obtain ⟨hkeep, hkeeps⟩ := List.forall_mem_cons.1 hkeeps
    exact .cons ⟨f, hkeep f hf, hlayer⟩ (ih hkeeps)

/-- Frames that stay where they are share names out as before. -/
theorem SharesOut.of_keeps {frames frames' more more' : Array Frame} {row : List Nat}
    (h : SharesOut frames frames' row)
    (hkeeps : ∀ a ∈ row, ∀ f, frames[a]? = some f → more[a]? = some f)
    (hkeeps' : ∀ a ∈ row, ∀ f, frames'[a]? = some f → more'[a]? = some f) :
    SharesOut more more' row := by
  obtain ⟨layers, layers', hlayers, hlayers', hsame⟩ := h
  exact ⟨layers, layers', Lists.of_keeps hlayers hkeeps, Lists.of_keeps hlayers' hkeeps', hsame⟩

/-- The entries of the hidden cell in two states give the agreed names the same values. -/
structure Veil.Agree (V : Veil) (W : World) (entries entries' : Array (Value × Value)) : Prop where
  same (n : String) (h : V.agreed n) : entryValue? entries'.toList n = entryValue? entries.toList n
  clear (n : String) (h : V.agreed n) : Valued.clear V W (entryValue? entries.toList n)

/-- Whether nothing that is seen in a state leads to what is hidden. -/
structure Veil.Shows (V : Veil) (s : State) : Prop where
  cell : V.cell < s.cells.size
  compiler : V.compiler < s.compilers.size
  cells (a : Nat) (h : a ≠ V.cell) : Valued.clear V s.world s.cells[a]?
  frames : Valued.clear V s.world s.frames
  handled : Valued.clear V s.world s.handled
  caches (a : Nat) (h : a ≠ V.compiler) :
    Valued.clear V s.world (s.compilers[a]?.bind Compiler.cache)
  row (a : Nat) (h : V.Hides a) : a < s.frames.size

/-- Whether two states differ only in what is hidden, and in the log. -/
structure Veil.Alike (V : Veil) (s s' : State) : Prop where
  shows : V.Shows s
  rest : s' = { s with
    cells := s'.cells, frames := s'.frames, compilers := s'.compilers, log := s'.log }
  size : s'.cells.size = s.cells.size
  cells (a : Nat) (h : a ≠ V.cell) : s'.cells[a]? = s.cells[a]?
  globals : ∃ entries entries', s.cells[V.cell]? = some (.dict entries) ∧
    s'.cells[V.cell]? = some (.dict entries') ∧ V.Agree s.world entries entries'
  compilersSize : s'.compilers.size = s.compilers.size
  compilers (a : Nat) (h : a ≠ V.compiler) : s'.compilers[a]? = s.compilers[a]?
  framesSize : s'.frames.size = s.frames.size
  frames (a : Nat) (h : ¬ V.Hides a) : s'.frames[a]? = s.frames[a]?
  row : SharesOut s.frames s'.frames V.row

namespace Veil

variable {V : Veil} {W W' : World} {s s' t : State}

theorem Agree.mono {entries entries' : Array (Value × Value)} (hW : W.Within W')
    (h : V.Agree W entries entries') : V.Agree W' entries entries' :=
  ⟨h.same, fun n hn => Valued.mono hW (h.clear n hn)⟩

/-- Where neither cells nor frames nor compilers change, it is enough to look at the errors. -/
theorem Shows.keep (h : V.Shows s) (hcells : t.cells = s.cells) (hframes : t.frames = s.frames)
    (hcompilers : t.compilers = s.compilers) (hhandled : Valued.clear V s.world t.handled) :
    V.Shows t := by
  have hworld : t.world = s.world := by
    funext a
    rw [State.world, State.world, hframes]
  exact ⟨hcells ▸ h.cell, hcompilers ▸ h.compiler, hworld ▸ hcells ▸ h.cells,
    hworld ▸ hframes ▸ h.frames, hworld ▸ hhandled, hworld ▸ hcompilers ▸ h.caches,
    hframes ▸ h.row⟩

namespace Alike

/-- Changing what is neither hidden nor in a cell or frame nor kept by a compiler. -/
theorem map (h : V.Alike s s') {g : State → State}
    (hg : ∀ u cells frames compilers log, g { u with cells, frames, compilers, log } =
      { g u with cells, frames, compilers, log })
    (hshows : V.Shows (g s)) : V.Alike (g s) (g s') := by
  have hkeep (u : State) : g u = { g u with
      cells := u.cells, frames := u.frames, compilers := u.compilers, log := u.log } :=
    hg u u.cells u.frames u.compilers u.log
  have hcells (u : State) : (g u).cells = u.cells := by rw [hkeep]
  have hframes (u : State) : (g u).frames = u.frames := by rw [hkeep]
  have hcompilers (u : State) : (g u).compilers = u.compilers := by rw [hkeep]
  have hworld : (g s).world = s.world := by
    funext a
    rw [State.world, State.world, hframes]
  obtain ⟨entries, entries', hs, hs', hagree⟩ := h.globals
  refine ⟨hshows, ?_, ?_, fun a ha => ?_, ⟨entries, entries', ?_, ?_, hworld ▸ hagree⟩, ?_,
    fun a ha => ?_, ?_, fun a ha => ?_, ?_⟩
  · conv_lhs => rw [h.rest, hg]
    rw [hcells, hframes, hcompilers, hkeep s']
  · rw [hcells, hcells, h.size]
  · rw [hcells, hcells, h.cells a ha]
  · rw [hcells, hs]
  · rw [hcells, hs']
  · rw [hcompilers, hcompilers, h.compilersSize]
  · rw [hcompilers, hcompilers, h.compilers a ha]
  · rw [hframes, hframes, h.framesSize]
  · rw [hframes, hframes, h.frames a ha]
  · rw [hframes, hframes]
    exact h.row

theorem withFrames (h : V.Alike s s') {frames frames' : Array Frame}
    (hworld : s.world.Within ({ s with frames } : State).world)
    (hclear : Valued.clear V ({ s with frames } : State).world frames)
    (hgrow : s.frames.size ≤ frames.size) (hsize : frames'.size = frames.size)
    (hframes : ∀ a, ¬ V.Hides a → frames'[a]? = frames[a]?)
    (hrow : SharesOut frames frames' V.row) :
    V.Alike { s with frames } { s' with frames := frames' } where
  shows := {
    cell := h.shows.cell
    compiler := h.shows.compiler
    cells a ha := Valued.mono hworld (h.shows.cells a ha)
    frames := hclear
    handled := Valued.mono hworld h.shows.handled
    caches a ha := Valued.mono hworld (h.shows.caches a ha)
    row a ha := (h.shows.row a ha).trans_le hgrow }
  rest := by conv_lhs => rw [h.rest]
  size := h.size
  cells := h.cells
  globals := by
    obtain ⟨entries, entries', hs, hs', hagree⟩ := h.globals
    exact ⟨entries, entries', hs, hs', hagree.mono hworld⟩
  compilersSize := h.compilersSize
  compilers := h.compilers
  framesSize := hsize
  frames := hframes
  row := hrow

end Alike

end Veil

/-! ### Ends that are alike -/

/-- Whether two computations that started alike in a world end alike, or are both lost. -/
inductive Veil.EndsAlike (V : Veil) {α : Type} [Valued α] (W : World) :
    Option (Except Value α × State) → Option (Except Value α × State) → Prop
  | lost {e e' : Option (Except Value α × State)} (h : IsLost e) (h' : IsLost e') :
    EndsAlike V W e e'
  | same {result : Except Value α} {t t' : State} (halike : V.Alike t t')
    (hwithin : W.Within t.world) (hclear : Valued.clear V t.world result) :
    EndsAlike V W (some (result, t)) (some (result, t'))

namespace Veil.EndsAlike

variable {V : Veil} {W W' : World} {α β : Type} [Valued α] [Valued β]

theorem none : V.EndsAlike (α := α) W none none := .lost isLost_none isLost_none

theorem mono {e e' : Option (Except Value α × State)} (hW : W.Within W')
    (h : V.EndsAlike W' e e') : V.EndsAlike W e e' := by
  cases h with
  | lost h h' => exact .lost h h'
  | same halike hwithin hclear => exact .same halike (hW.trans hwithin) hclear

/-- What goes on in the same way from ends that are alike. -/
theorem bind {r : Run α} {f : α → Run β} {s s' : State}
    (h : V.EndsAlike W (r.ends s) (r.ends s')) (hstays : ∀ a, (f a).StaysLost)
    (hf : ∀ a t t', V.Alike t t' → W.Within t.world → Valued.clear V t.world a →
      V.EndsAlike t.world ((f a).ends t) ((f a).ends t')) :
    V.EndsAlike W ((r >>= f).ends s) ((r >>= f).ends s') := by
  generalize hends : r.ends s = e at h
  generalize hends' : r.ends s' = e' at h
  cases h with
  | lost h h' =>
    exact .lost (Run.isLost_bind (hends ▸ h) hstays) (Run.isLost_bind (hends' ▸ h') hstays)
  | @same result t t' halike hwithin hclear =>
    cases result with
    | error e =>
      rw [Run.ends_bind_of_error hends, Run.ends_bind_of_error hends']
      exact .same halike hwithin hclear
    | ok a =>
      rw [Run.ends_bind_of_ok hends, Run.ends_bind_of_ok hends']
      exact (hf a t t' halike hwithin hclear).mono hwithin

/-- Handling the errors of ends that are alike. -/
theorem tryCatch {r : Run α} {handle : Value → Run α} {s s' : State}
    (h : V.EndsAlike W (r.ends s) (r.ends s')) (hstays : ∀ e, (handle e).StaysLost)
    (hh : ∀ e t t', V.Alike t t' → W.Within t.world → V.Clear t.world e →
      V.EndsAlike t.world ((handle e).ends t) ((handle e).ends t')) :
    V.EndsAlike W ((tryCatch r handle : Run α).ends s) ((tryCatch r handle : Run α).ends s') := by
  generalize hends : r.ends s = e at h
  generalize hends' : r.ends s' = e' at h
  cases h with
  | lost h h' =>
    exact .lost (Run.isLost_tryCatch (hends ▸ h) hstays) (Run.isLost_tryCatch (hends' ▸ h') hstays)
  | @same result t t' halike hwithin hclear =>
    rw [Run.ends_tryCatch, Run.ends_tryCatch, hends, hends']
    cases result with
    | error e => exact (hh e t t' halike hwithin hclear).mono hwithin
    | ok a => exact .same halike hwithin hclear

end Veil.EndsAlike

/-! ### Computations -/

namespace Run

variable {V : Veil} {c c' : Facts V} {α β σ : Type} [Valued α] [Valued β] [Valued σ]

/-- A computation that is apart from what is hidden, if some facts hold when it starts. -/
class Apart (c : Facts V) (r : Run α) : Prop where
  stays : r.StaysLost
  ends {s s' : State} (h : V.Alike s s') (hc : c.holds s.world) :
    V.EndsAlike s.world (r.ends s) (r.ends s')

theorem Apart.losing {r : Run α} (hr : Apart c r) : Respects losing r := ⟨both_self hr.stays⟩

theorem Apart.of_knows {r : Run α} (hr : Apart c' r) [Knows c c'] : Apart c r :=
  ⟨hr.stays, fun halike hc => hr.ends halike (Knows.le hc)⟩

/-- Data that do not lead to what is hidden may be taken for known. -/
theorem Apart.using {r : Run α} (b : β) [Has c b] (hr : Apart (c.and b) r) : Apart c r :=
  ⟨hr.stays, fun halike hc => hr.ends halike ⟨hc, Has.clear hc⟩⟩

/-- The value of an option at hand may be taken for known. -/
theorem Apart.of_eq_some {r : Run α} {o : Option β} {b : β} (h : o = some b) [Has c o]
    (hr : Apart (c.and b) r) : Apart c r :=
  ⟨hr.stays, fun halike hc => hr.ends halike ⟨hc, Has.clear (a := o) hc b h⟩⟩

/-- A family of computations that are apart, at data at hand. -/
theorem Apart.apply {f : β → Run α} (hf : ∀ b, Apart (c.and b) (f b)) (b : β) [Has c' b]
    [Knows c' c] : Apart c' (f b) :=
  ⟨(hf b).stays, fun halike hc => (hf b).ends halike ⟨Knows.le hc, Has.clear hc⟩⟩

theorem Apart.apply₂ {f : β → σ → Run α} (hf : ∀ b x, Apart ((c.and b).and x) (f b x)) (b : β)
    (x : σ) [Has c' b] [Has c' x] [Knows c' c] : Apart c' (f b x) :=
  ⟨(hf b x).stays,
    fun halike hc => (hf b x).ends halike ⟨⟨Knows.le hc, Has.clear hc⟩, Has.clear hc⟩⟩

/-! ### Putting computations together -/

instance apart_pure (a : α) [Has c a] : Apart c (pure a : Run α) :=
  ⟨staysLost _, fun h hc => .same h (.refl _) (Has.clear (a := a) hc)⟩

instance apart_throw (e : Value) [Has c e] : Apart c (throw e : Run α) :=
  ⟨staysLost_of_ends fun _ => rfl, fun h hc => .same h (.refl _) (Has.clear (a := e) hc)⟩

instance apart_raise (kind message : String) : Apart c (raise kind message : Run α) :=
  apart_throw _

instance apart_raiseFault (kind : String) (fault : Fault) :
    Apart c (raiseFault kind fault : Run α) :=
  apart_throw _

instance apart_raiseIssues (issues : List Issue) : Apart c (raiseIssues issues : Run α) :=
  apart_throw _

instance apart_diverge : Apart c (diverge : Run α) := ⟨staysLost _, fun _ _ => .none⟩

instance apart_bind (r : Run α) (f : α → Run β) [hr : Apart c r]
    [hf : ∀ a, Apart (c.and a) (f a)] : Apart c (r >>= f) :=
  ⟨hr.stays.bind fun a => (hf a).stays,
    fun h hc => (hr.ends h hc).bind (fun a => (hf a).stays) fun a _ _ halike hwithin hclear =>
      (hf a).ends halike ⟨c.mono hwithin hc, hclear⟩⟩

theorem Apart.bind {r : Run α} {f : α → Run β} (hr : Apart c r)
    (hf : ∀ a, Apart (c.and a) (f a)) : Apart c (r >>= f) :=
  apart_bind r f

instance apart_map (f : α → β) (r : Run α) [Apart c r] [∀ a, Has (c.and a) (f a)] :
    Apart c (f <$> r) := by
  rw [map_eq_pure_bind]
  infer_instance

instance apart_ite (p : Prop) [Decidable p] (r r' : Run α) [Apart c r] [Apart c r'] :
    Apart c (if p then r else r') := by
  split <;> infer_instance

instance apart_tryCatch (r : Run α) (handle : Value → Run α) [hr : Apart c r]
    [hh : ∀ e, Apart (c.and e) (handle e)] : Apart c (tryCatch r handle : Run α) :=
  ⟨fun s hs => isLost_tryCatch (hr.stays s hs) fun e => (hh e).stays,
    fun h hc => (hr.ends h hc).tryCatch (fun e => (hh e).stays) fun e _ _ halike hwithin hclear =>
      (hh e).ends halike ⟨c.mono hwithin hc, hclear⟩⟩

/-- Going on with a part of the state in which states that are alike are the same. -/
theorem apart_get_bind {f : State → Run α} (hstays : ∀ s, (f s).StaysLost)
    (hf : ∀ {s s'}, V.Alike s s' → c.holds s.world →
      f s' = f s ∧ V.EndsAlike s.world ((f s).ends s) ((f s).ends s')) :
    Apart c ((get : Run State) >>= f) :=
  ⟨staysLost_get_bind hstays, fun {s s'} h hc => by
    obtain ⟨hsame, hends⟩ := hf h hc
    rw [ends_get_bind, ends_get_bind, hsame]
    exact hends⟩

/-- After a scope has been shown, all is lost. -/
theorem apart_expose_bind {f : PUnit → Run α} (hf : (f ⟨⟩).StaysLost) : Apart c (expose >>= f) :=
  ⟨(staysLost expose).bind fun _ => hf, fun _ _ => .lost (hf _ rfl) (hf _ rfl)⟩

/-- Changing what is neither hidden nor in a cell or frame nor kept by a compiler. -/
theorem apart_modify {g : State → State}
    (hexposed : ∀ s, s.exposed = true → (g s).exposed = true)
    (hg : ∀ u cells frames compilers log, g { u with cells, frames, compilers, log } =
      { g u with cells, frames, compilers, log })
    (hshows : ∀ s, c.holds s.world → V.Shows s → V.Shows (g s)) :
    Apart c (modify g : Run PUnit) :=
  ⟨staysLost_modify hexposed, fun {s s'} h hc => by
    have hworld : (g s).world = s.world := by
      have hkeep := hg s s.cells s.frames s.compilers s.log
      funext a
      rw [State.world, State.world, hkeep]
    exact .same (h.map hg (hshows s hc h.shows)) (hworld ▸ .refl _) trivial⟩

/-! ### Parts of the state -/

instance apart_log (source : String) (level : Log.Level) (message : String) :
    Apart c (log source level message) :=
  ⟨staysLost_modify fun _ h => h, fun {s s'} h _ => by
    have hshows : V.Shows { s with log := s.log.push ⟨source, level, message⟩ } :=
      h.shows.keep rfl rfl rfl h.shows.handled
    refine .same ⟨hshows, ?_, h.size, h.cells, h.globals, h.compilersSize, h.compilers,
      h.framesSize, h.frames, h.row⟩ (.refl _) trivial
    conv_lhs => rw [h.rest]⟩

instance apart_fresh : Apart c fresh :=
  ⟨staysLost _, fun {s s'} h _ => by
    have hserial : s'.serial = s.serial := by rw [h.rest]
    have hends : fresh.ends s' = some (.ok s.serial, { s' with serial := s'.serial + 1 }) :=
      congrArg (fun n => some (Except.ok n, _)) hserial
    rw [ends_fresh, hends]
    refine .same ?_ (.refl _) trivial
    exact h.map (g := fun u => { u with serial := u.serial + 1 }) (fun _ _ _ _ _ => rfl)
      (h.shows.keep rfl rfl rfl h.shows.handled)⟩

/-- The address of a new cell is not the hidden one. -/
theorem apart_alloc_bind {cell : Cell} [Has c cell] {f : Nat → Run α}
    (hstays : ∀ address, (f address).StaysLost)
    (hf : ∀ address, address ≠ V.cell → Apart c (f address)) : Apart c (alloc cell >>= f) :=
  ⟨(staysLost (alloc cell)).bind hstays, fun {s s'} h hc => by
    have hne : s.cells.size ≠ V.cell := Nat.ne_of_gt h.shows.cell
    have hpush (u : State) (hu : u.cells.size = s.cells.size) :
        (alloc cell).ends u = some (.ok s.cells.size, { u with cells := u.cells.push cell }) := by
      rw [ends_alloc, hu]
    rw [ends_bind_of_ok (hpush s rfl), ends_bind_of_ok (hpush s' h.size)]
    refine (hf _ hne).ends (s := { s with cells := s.cells.push cell }) ?_ hc
    have hcell : Valued.clear V s.world cell := Has.clear hc
    have hhidden := h.shows.cell
    obtain ⟨entries, entries', hs, hs', hagree⟩ := h.globals
    refine ⟨⟨?_, h.shows.compiler, fun a ha => ?_, h.shows.frames, h.shows.handled,
      h.shows.caches, h.shows.row⟩, ?_, ?_, fun a ha => ?_, ⟨entries, entries', ?_, ?_, hagree⟩,
      h.compilersSize, h.compilers, h.framesSize, h.frames, h.row⟩
    · simp only [Array.size_push]
      omega
    · intro other hother
      rw [Array.getElem?_push] at hother
      split at hother
      · cases hother
        exact hcell
      · exact h.shows.cells a ha other hother
    · conv_lhs => rw [h.rest]
    · simp only [Array.size_push, h.size]
    · simp only [Array.getElem?_push, h.size, h.cells a ha]
    · simp only [Array.getElem?_push, hs]
      rw [if_neg (Nat.ne_of_lt hhidden)]
    · simp only [Array.getElem?_push, h.size, hs']
      rw [if_neg (Nat.ne_of_lt hhidden)]⟩

instance apart_cell (address : Nat) [Away c address] : Apart c (cell address) :=
  apart_get_bind (fun _ => staysLost _) fun {s s'} h hc => by
    have hne : address ≠ V.cell := Away.ne hc
    refine ⟨by rw [h.cells address hne], .same h (.refl _) ?_⟩
    have hclear := h.shows.cells address hne
    cases hcell : s.cells[address]? with
    | none => exact fun _ h => nomatch h
    | some cell => exact hclear cell hcell

instance apart_setCell (address : Nat) (cell : Cell) [Away c address] [Has c cell] :
    Apart c (setCell address cell) :=
  ⟨staysLost _, fun {s s'} h hc => by
    have hne : address ≠ V.cell := Away.ne hc
    have hcell : Valued.clear V s.world cell := Has.clear hc
    obtain ⟨entries, entries', hs, hs', hagree⟩ := h.globals
    refine .same ⟨⟨?_, h.shows.compiler, fun a ha => ?_, h.shows.frames, h.shows.handled,
      h.shows.caches, h.shows.row⟩, ?_, ?_, fun a ha => ?_, ⟨entries, entries', ?_, ?_, hagree⟩,
      h.compilersSize, h.compilers, h.framesSize, h.frames, h.row⟩ (.refl _) trivial
    · simpa only [Array.size_setIfInBounds] using h.shows.cell
    · intro other hother
      rw [Array.getElem?_setIfInBounds] at hother
      split at hother
      · split at hother
        · cases hother
          exact hcell
        · cases hother
      · exact h.shows.cells a ha other hother
    · conv_lhs => rw [h.rest]
    · simp only [Array.size_setIfInBounds, h.size]
    · simp only [Array.getElem?_setIfInBounds, h.size, h.cells a ha]
    · rw [Array.getElem?_setIfInBounds_ne hne, hs]
    · rw [Array.getElem?_setIfInBounds_ne hne, hs']⟩

instance apart_listItems (address : Nat) [Away c address] : Apart c (listItems address) := by
  refine .bind inferInstance fun cell => ?_
  cases cell <;> infer_instance

instance apart_dictEntries (address : Nat) [Away c address] : Apart c (dictEntries address) := by
  refine .bind inferInstance fun cell => ?_
  cases cell <;> infer_instance

instance apart_setItems (address : Nat) [Away c address] : Apart c (setItems address) := by
  refine .bind inferInstance fun cell => ?_
  cases cell <;> infer_instance

theorem away_of_ne {address : Nat} (h : address ≠ V.cell) : Away c address := ⟨fun _ => h⟩

instance apart_newList (items : Array Value) [Has c items] : Apart c (newList items) :=
  apart_alloc_bind (fun _ => staysLost _) fun _ h => have := away_of_ne (c := c) h; inferInstance

instance apart_newDict (entries : Array (Value × Value)) [Has c entries] :
    Apart c (newDict entries) :=
  apart_alloc_bind (fun _ => staysLost _) fun _ h => have := away_of_ne (c := c) h; inferInstance

instance apart_newSet (items : Array Value) [Has c items] : Apart c (newSet items) :=
  apart_alloc_bind (fun _ => staysLost _) fun _ h => have := away_of_ne (c := c) h; inferInstance

instance apart_newIterator (kind : String) (i : Iterator) [Has c i] :
    Apart c (newIterator kind i) :=
  apart_alloc_bind (fun _ => staysLost _) fun _ h => have := away_of_ne (c := c) h; inferInstance

/-! ### Frames -/

/-- A new frame is known from then on. -/
theorem apart_enterFrame_bind {f : Frame} [Has c f] {k : Nat → Run α}
    (hk : ∀ address, Apart (c.entered f address) (k address)) : Apart c (enterFrame f >>= k) :=
  ⟨(staysLost (enterFrame f)).bind fun address => (hk address).stays, fun {s s'} h hc => by
    have henter (u : State) (hu : u.frames.size = s.frames.size) : (enterFrame f).ends u =
        some (.ok s.frames.size, { u with frames := u.frames.push f }) := by
      rw [ends_enterFrame, hu]
    rw [ends_bind_of_ok (henter s rfl), ends_bind_of_ok (henter s' h.framesSize)]
    have hworld : s.world.Within ({ s with frames := s.frames.push f } : State).world := by
      intro a names ha
      obtain ⟨f', hf', hknown⟩ := Option.bind_eq_some_iff.1 ha
      have hlt := (Array.getElem?_eq_some_iff.1 hf').1
      simp only [State.world, Array.getElem?_push, Nat.ne_of_lt hlt, if_false]
      exact ha
    have hframes : Valued.clear V ({ s with frames := s.frames.push f } : State).world
        (s.frames.push f) :=
      Valued.mono hworld (Has.clear (c := (c.and f).and s.frames) (a := s.frames.push f)
        ⟨⟨hc, Has.clear hc⟩, h.shows.frames⟩)
    have hkeeps (frames : Array Frame) (a : Nat) (f' : Frame) (hf' : frames[a]? = some f') :
        (frames.push f)[a]? = some f' := by
      rw [Array.getElem?_push, if_neg (Nat.ne_of_lt (Array.getElem?_eq_some_iff.1 hf').1), hf']
    have halike : V.Alike { s with frames := s.frames.push f }
        { s' with frames := s'.frames.push f } := by
      refine h.withFrames hworld hframes (by simp) (by simp [h.framesSize]) (fun a ha => ?_)
        (h.row.of_keeps (fun a _ => hkeeps s.frames a) fun a _ => hkeeps s'.frames a)
      rw [Array.getElem?_push, Array.getElem?_push, h.framesSize, h.frames a ha]
    refine ((hk _).ends halike ⟨c.mono hworld hc, fun names hn => ?_, fun hhides => ?_⟩).mono hworld
    · simpa [State.world] using hn
    · exact Nat.lt_irrefl _ (h.shows.row _ hhides)⟩

theorem apart_frame {address : Nat} (hshown : ∀ {W : World}, c.holds W → ¬ V.Hides address) :
    Apart c (frame address) :=
  apart_get_bind (fun _ => staysLost _) fun {s s'} h hc => by
    refine ⟨by rw [h.frames address (hshown hc)], .same h (.refl _) ?_⟩
    cases hframe : s.frames[address]? with
    | none => exact ⟨fun _ h => (by simp at h), fun _ h => (by simp at h)⟩
    | some f => exact h.shows.frames f (Array.mem_of_getElem? hframe)

/-- A frame that is changed in such a way that it lists the same names. -/
theorem world_setFrame {s : State} {address : Nat} {f : Frame}
    (hknown : ∀ f₀, s.frames[address]? = some f₀ → f.known? = f₀.known?) :
    ({ s with frames := s.frames.setIfInBounds address f } : State).world = s.world := by
  funext a
  simp only [State.world, Array.getElem?_setIfInBounds]
  split
  · next heq =>
    subst heq
    split
    · next hlt => rw [Array.getElem?_eq_getElem hlt, Option.bind_some, Option.bind_some,
        hknown _ (Array.getElem?_eq_getElem hlt)]
    · next hge => rw [Array.getElem?_eq_none (Nat.not_lt.1 hge)]
  · rfl

theorem clear_setFrame {frames : Array Frame} {W : World} {f : Frame}
    (h : Valued.clear V W frames) (hf : Valued.clear V W f) (address : Nat) :
    Valued.clear V W (frames.setIfInBounds address f) := by
  intro f' hf'
  rcases Array.mem_or_eq_of_mem_setIfInBounds hf' with hf' | rfl
  · exact h f' hf'
  · exact hf

/-- Changing frames in such a way that they list the same names. -/
theorem endsAlike_setFrames {s s' : State} (h : V.Alike s s') {a a' : Nat} {f f' : Frame}
    (hknown : ∀ f₀, s.frames[a]? = some f₀ → f.known? = f₀.known?)
    (hf : Valued.clear V s.world f)
    (hframes : ∀ b, ¬ V.Hides b →
      (s'.frames.setIfInBounds a' f')[b]? = (s.frames.setIfInBounds a f)[b]?)
    (hrow : SharesOut (s.frames.setIfInBounds a f) (s'.frames.setIfInBounds a' f') V.row) :
    V.EndsAlike s.world ((setFrame a f).ends s) ((setFrame a' f').ends s') := by
  have hworld := world_setFrame hknown
  have hwithin : s.world.Within
      ({ s with frames := s.frames.setIfInBounds a f } : State).world := by
    rw [hworld]
    exact .refl _
  exact .same (h.withFrames hwithin (hworld ▸ clear_setFrame h.shows.frames hf a) (by simp)
    (by simp [h.framesSize]) hframes hrow) hwithin trivial

/-- Changing a frame that shares no names out. -/
theorem endsAlike_setFrame {s s' : State} (h : V.Alike s s') {address : Nat} {f : Frame}
    (hshown : ¬ V.Hides address)
    (hknown : ∀ f₀, s.frames[address]? = some f₀ → f.known? = f₀.known?)
    (hf : Valued.clear V s.world f) :
    V.EndsAlike s.world ((setFrame address f).ends s) ((setFrame address f).ends s') := by
  have hkeeps (frames : Array Frame) (a : Nat) (ha : a ∈ V.row) (f' : Frame)
      (hf' : frames[a]? = some f') : (frames.setIfInBounds address f)[a]? = some f' := by
    rw [Array.getElem?_setIfInBounds_ne, hf']
    rintro rfl
    exact hshown ha
  refine endsAlike_setFrames h hknown hf (fun b hb => ?_)
    (h.row.of_keeps (hkeeps s.frames) (hkeeps s'.frames))
  rw [Array.getElem?_setIfInBounds, Array.getElem?_setIfInBounds, h.framesSize, h.frames b hb]

/-! ### Repetition -/

instance apart_repeatWithin (step : σ → Run (σ ⊕ α)) [hstep : ∀ s, Apart (c.and s) (step s)]
    (n : Nat) (s : σ) [Has c s] : Apart c (repeatWithin step n s) := by
  have hstep (d : Facts V) [Knows d c] (s : σ) [Has d s] : Apart d (step s) := .apply hstep s
  have hrun (d : Facts V) [Knows d c] (s : σ) [Has d s] : Apart d (repeatWithin step n s) := by
    induction n generalizing s d with
    | zero => exact apart_diverge
    | succ n ih =>
      refine .bind inferInstance fun result => ?_
      cases result <;> infer_instance
  exact hrun c s

instance apart_iterate (step : σ → Run (σ ⊕ α)) [∀ s, Apart (c.and s) (step s)] (s : σ)
    [Has c s] : Apart c (iterate step s) := by
  have hstep : ∀ s, Respects losing (step s) := fun s => Apart.losing (c := c.and s) inferInstance
  refine ⟨staysLost _, fun {t t'} h hc => ?_⟩
  obtain ⟨n, hn, hn'⟩ := exists_bound_two step s t t'
  rw [← hn, ← hn']
  exact Apart.ends h hc

instance apart_mapM (f : α → Run β) [hf : ∀ a, Apart (c.and a) (f a)] (l : List α) [Has c l] :
    Apart c (l.mapM f) := by
  have hf (d : Facts V) [Knows d c] (a : α) [Has d a] : Apart d (f a) := .apply hf a
  have hrun (d : Facts V) [Knows d c] (l : List α) [Has d l] : Apart d (l.mapM f) := by
    induction l generalizing d with
    | nil => exact apart_pure []
    | cons a l ih =>
      rw [List.mapM_cons]
      exact .using (a :: l) inferInstance
  exact hrun c l

instance apart_forM (f : α → Run PUnit) [hf : ∀ a, Apart (c.and a) (f a)] (l : List α)
    [Has c l] : Apart c (l.forM f) := by
  have hf (d : Facts V) [Knows d c] (a : α) [Has d a] : Apart d (f a) := .apply hf a
  have hrun (d : Facts V) [Knows d c] (l : List α) [Has d l] : Apart d (l.forM f) := by
    induction l generalizing d with
    | nil => exact apart_pure _
    | cons a l ih =>
      rw [List.forM_eq_forM, List.forM_cons]
      exact .using (a :: l) (.bind inferInstance fun _ => ih _)
  exact hrun c l

instance apart_anyM (f : α → Run Bool) [hf : ∀ a, Apart (c.and a) (f a)] (l : List α)
    [Has c l] : Apart c (l.anyM f) := by
  have hf (d : Facts V) [Knows d c] (a : α) [Has d a] : Apart d (f a) := .apply hf a
  have hrun (d : Facts V) [Knows d c] (l : List α) [Has d l] : Apart d (l.anyM f) := by
    induction l generalizing d with
    | nil => exact apart_pure false
    | cons a l ih =>
      unfold List.anyM
      refine .using (a :: l) (.bind inferInstance fun found => ?_)
      cases found <;> infer_instance
  exact hrun c l

/-- Running a function one level deeper. -/
instance apart_deeper (r : Run α) [Apart c r] : Apart c (deeper r) := by
  have hdepth (c' : Facts V) (depth : Nat) :
      Apart c' (modify fun s => { s with depth } : Run PUnit) :=
    apart_modify (fun _ h => h) (fun _ _ _ _ _ => rfl) fun s _ h => h.keep rfl rfl rfl h.handled
  have hbody (depth : Nat) : Apart c (do
      if maxDepth ≤ depth then
        raise "RecursionError" "maximum recursion depth exceeded"
      else
        modify fun s => { s with depth := depth + 1 }
        let result ← tryCatch (Except.ok <$> r) fun e => pure (Except.error e)
        modify fun s => { s with depth }
        match result with
        | .ok a => pure a
        | .error e => throw e) := by
    refine @apart_ite _ _ _ _ _ _ _ _ inferInstance ?_
    have (d : Facts V) [Knows d c] : Apart d r := .of_knows ‹Apart c r›
    refine .bind (hdepth _ _) fun _ => .bind inferInstance fun result =>
      .bind (hdepth _ _) fun _ => ?_
    cases result <;> infer_instance
  refine apart_get_bind (fun s => (hbody s.depth).stays) fun {s s'} h hc => ⟨by rw [h.rest], ?_⟩
  exact (hbody s.depth).ends h hc

end Run

end LambdaText
