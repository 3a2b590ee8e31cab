import LambdaText.Proofs.Eval.Globals
import LambdaText.Proofs.Veiled.Names

/-!
# What is kept from a hidden cell

A cell that holds global names is hidden if no value leads to it but functions, of which each looks
up in it only names that are agreed on. All other names such a function has in the frames around it;
so it matters which names the frames list. Frames are only added, and keep their names: what is
known of the frames, a world, only grows.
-/

namespace LambdaText

open LambdaText.Code LambdaText.Function

/-! ### Worlds -/

/-- What is known of the frames: the names that a frame lists, if it declares none global. -/
def World := Nat → Option (List String)

/-- Whether all that is known in a world is known in another one. -/
def World.Within (W W' : World) : Prop := ∀ a names, W a = some names → W' a = some names

theorem World.Within.refl (W : World) : W.Within W := fun _ _ h => h

theorem World.Within.trans {W W' W'' : World} (h : W.Within W') (h' : W'.Within W'') :
    W.Within W'' :=
  fun a names ha => h' a names (h a names ha)

/-- The names that a frame lists, if it declares none global. -/
def Frame.known? (f : Frame) : Option (List String) :=
  if f.globals.isEmpty then some (f.slots.toList.map Prod.fst) else none

def State.world (s : State) : World := fun a => s.frames[a]?.bind Frame.known?

/-! ### Values that keep clear -/

/-- What is hidden: a cell that holds global names, a compiler, and how the frames of a row share the
names out that they list together. -/
structure Veil where
  /-- The address of the cell. -/
  cell : Nat
  /-- The address of the compiler. -/
  compiler : Nat
  /-- The addresses of the frames, innermost first. -/
  row : List Nat
  nodup : row.Nodup
  /-- The names on which the cell is agreed on. -/
  agreed : String → Prop
  /-- Built-in names are looked up in the same place. -/
  builtins : agreed "__builtins__"

/-- The values that a function with held arguments is made of. -/
def curriedParts (c : Curried Value) : List Value :=
  c.function :: c.right :: c.held ++ c.count.toList

def templateParts (t : Template Value) : List Value := t.function :: t.items

def combinedParts : Combinator Value → List Value
  | .constant v | .flip v | .uncurry v | .returning v | .negate v | .pluck v => [v]
  | .compose fs | .sequence fs => fs
  | .guarded f test fallback => f :: test.toList ++ fallback.toList
  | .filterAt f index filter => [f, index, filter]
  | .filterSlice f filter first last => [f, filter, first, last]
  | .invoke v arguments | .saturate v arguments => v :: arguments
  | .iterate test f => [test, f]

def Value.parts : Value → List Value
  | .tuple items => items
  | .slice a b c => [a, b, c]
  | .bound receiver _ => [receiver]
  | .function _ _ _ _ defaults => defaults.map Prod.snd
  | .compiled _ _ f => [f]
  | .curried _ c => curriedParts c
  | .template _ t => templateParts t
  | .combined _ c => combinedParts c
  | .error _ arguments _ => arguments
  | _ => []

namespace Veil

variable (V : Veil) (W : World)

/-- Whether a frame is one of those that share names out. -/
def Hides (a : Nat) : Prop := a ∈ V.row

/-- Whether a scope has all of these frames, behind all others, or none of them. -/
def Places (scope : Scope) : Prop :=
  ∃ front back, scope.frames = front ++ back ∧ (∀ a ∈ front, ¬ V.Hides a) ∧
    (back = [] ∨ scope.globals = V.cell ∧ back = V.row)

/-- Whether code in a scope may look names up: in the hidden cell, only those that are agreed on. -/
def Covers (scope : Scope) (names : List String) : Prop :=
  V.Places scope ∧ (scope.globals = V.cell → (∀ a ∈ scope.frames, (W a).isSome) ∧
    ∀ n ∈ names, V.agreed n ∨ ∃ a ∈ scope.frames, ∃ listed ∈ W a, n ∈ listed)

/-- Whether a function may be called that was made in a scope. -/
def Admits (scope : Scope) (code : Routine) : Prop :=
  V.Covers W scope code.free ∧
    (scope.globals = V.cell → code.globals = [] ∧ ∃ e, code.body = .value e)

/-- Whether a value does not lead to what is hidden, apart from its parts. -/
def Avoids : Value → Prop
  | .list a | .dict a | .set a | .view _ a | .iterator _ a => a ≠ V.cell
  | .compiler a => a ≠ V.compiler
  | .function _ code scope _ _ => V.Admits W scope code
  | _ => True

/-- A value that does not lead to what is hidden. -/
inductive Clear : Value → Prop where
  | intro {v : Value} (own : V.Avoids W v) (parts : ∀ p ∈ v.parts, Clear p) : Clear v

variable {V W}

theorem clear_iff {v : Value} : V.Clear W v ↔ V.Avoids W v ∧ ∀ p ∈ v.parts, V.Clear W p :=
  ⟨fun ⟨own, parts⟩ => ⟨own, parts⟩, fun ⟨own, parts⟩ => ⟨own, parts⟩⟩

theorem places_of_forall {scope : Scope} (h : ∀ a ∈ scope.frames, ¬ V.Hides a) : V.Places scope :=
  ⟨scope.frames, [], (List.append_nil _).symm, h, .inl rfl⟩

/-- A scope over other global names has none of these frames. -/
theorem Places.not_hides {scope : Scope} (h : V.Places scope) (hne : scope.globals ≠ V.cell) :
    ∀ a ∈ scope.frames, ¬ V.Hides a := by
  obtain ⟨front, back, hframes, hfront, rfl | ⟨hcell, -⟩⟩ := h
  · rwa [hframes, List.append_nil]
  · exact absurd hcell hne

variable {W' : World} (h : W.Within W')

include h

theorem Covers.mono {scope : Scope} {names : List String} (hc : V.Covers W scope names) :
    V.Covers W' scope names := by
  refine ⟨hc.1, fun hglobals => ?_⟩
  obtain ⟨hknown, hnames⟩ := hc.2 hglobals
  refine ⟨fun a ha => ?_, fun n hn => (hnames n hn).imp_right ?_⟩
  · obtain ⟨listed, hlisted⟩ := Option.isSome_iff_exists.1 (hknown a ha)
    rw [h a listed hlisted]
    rfl
  · rintro ⟨a, ha, listed, hlisted, hmem⟩
    exact ⟨a, ha, listed, h a listed hlisted, hmem⟩

theorem Avoids.mono {v : Value} (hv : V.Avoids W v) : V.Avoids W' v := by
  cases v with
  | function serial code scope name defaults => exact ⟨Covers.mono h hv.1, hv.2⟩
  | _ => exact hv

theorem Clear.mono {v : Value} (hv : V.Clear W v) : V.Clear W' v := by
  induction hv with
  | intro own _ ih => exact ⟨own.mono h, ih⟩

end Veil

/-! ### Data that keep clear -/

/-- A type of data that may hold values. -/
class Valued (α : Type) where
  /-- Whether none of the values leads to what is hidden. -/
  clear (V : Veil) (W : World) : α → Prop
  /-- They do not when more is known. -/
  mono {V : Veil} {W W' : World} {a : α} : W.Within W' → clear V W a → clear V W' a

section Instances

variable {α β : Type}

/-- All other types hold no values. -/
instance (priority := low) valuedPlain : Valued α := ⟨fun _ _ _ => True, fun _ h => h⟩

instance valuedValue : Valued Value := ⟨Veil.Clear, fun h hv => Veil.Clear.mono h hv⟩

instance valuedOption [Valued α] : Valued (Option α) :=
  ⟨fun V W o => ∀ a ∈ o, Valued.clear V W a, fun h ho a ha => Valued.mono h (ho a ha)⟩

instance valuedList [Valued α] : Valued (List α) :=
  ⟨fun V W l => ∀ a ∈ l, Valued.clear V W a, fun h hl a ha => Valued.mono h (hl a ha)⟩

instance valuedArray [Valued α] : Valued (Array α) :=
  ⟨fun V W l => ∀ a ∈ l, Valued.clear V W a, fun h hl a ha => Valued.mono h (hl a ha)⟩

instance valuedProd [Valued α] [Valued β] : Valued (α × β) :=
  ⟨fun V W p => Valued.clear V W p.1 ∧ Valued.clear V W p.2,
    fun h hp => ⟨Valued.mono h hp.1, Valued.mono h hp.2⟩⟩

instance valuedSum [Valued α] [Valued β] : Valued (α ⊕ β) where
  clear V W
    | .inl a => Valued.clear V W a
    | .inr b => Valued.clear V W b
  mono {_ _ _ r} h hr := by
    cases r with
    | inl a => exact Valued.mono (α := α) h hr
    | inr b => exact Valued.mono (α := β) h hr

instance valuedExcept [Valued α] : Valued (Except Value α) where
  clear V W
    | .ok a => Valued.clear V W a
    | .error e => V.Clear W e
  mono {_ _ _ r} h hr := by
    cases r with
    | ok a => exact Valued.mono (α := α) h hr
    | error e => exact Veil.Clear.mono h hr

/-- How a block ends. -/
instance valuedFlow : Valued Flow where
  clear V W
    | .give v => V.Clear W v
    | _ => True
  mono {_ _ _ f} h hf := by
    cases f with
    | give v => exact Veil.Clear.mono h hf
    | _ => trivial

/-- The names of a running function. -/
instance valuedFrame : Valued Frame where
  clear V W f := Valued.clear V W f.slots ∧ Valued.clear V W f.yielded
  mono h hf := ⟨Valued.mono h hf.1, Valued.mono h hf.2⟩

/-- What a compiler keeps. -/
instance valuedCache : Valued (Cache String Value) :=
  ⟨fun V W c => Valued.clear V W c.entries, fun h hc => Valued.mono (α := List (String × Value)) h hc⟩

/-- Whether an iterator does not lead to what is hidden. -/
def Iterator.Clear (V : Veil) (W : World) : Iterator → Prop
  | .items rest => Valued.clear V W rest
  | .list a _ | .backwards a _ | .dict _ a _ _ | .set a _ _ => a ≠ V.cell
  | .range _ _ _ | .ended => True
  | .enumerate source _ => V.Clear W source
  | .zip sources _ => Valued.clear V W sources
  | .map f sources => V.Clear W f ∧ Valued.clear V W sources
  | .filter test source => V.Clear W test ∧ V.Clear W source
  | .calls f stop => V.Clear W f ∧ V.Clear W stop
  | .comprehension scope item value loops opened =>
    V.Covers W scope (item.free ++ freeOfOption value ++ loops.flatMap Loop.free) ∧
      Valued.clear V W opened
  | .routine scope code =>
    V.Covers W scope code.body.free ∧ (scope.globals = V.cell → ∃ e, code.body = .value e) ∧
      ∀ a ∈ scope.frames.head?, ¬ V.Hides a
  | .failing rest error => Valued.clear V W rest ∧ V.Clear W error

theorem Iterator.Clear.mono {V : Veil} {W W' : World} (h : W.Within W') {i : Iterator}
    (hi : i.Clear V W) : i.Clear V W' := by
  cases i with
  | items => exact Valued.mono (α := List Value) h hi
  | enumerate => exact Veil.Clear.mono h hi
  | zip => exact Valued.mono (α := List Value) h hi
  | map => exact ⟨hi.1.mono h, Valued.mono (α := List Value) h hi.2⟩
  | filter => exact ⟨hi.1.mono h, hi.2.mono h⟩
  | calls => exact ⟨hi.1.mono h, hi.2.mono h⟩
  | comprehension => exact ⟨Veil.Covers.mono h hi.1, Valued.mono (α := List Value) h hi.2⟩
  | routine => exact ⟨Veil.Covers.mono h hi.1, hi.2⟩
  | failing => exact ⟨Valued.mono (α := List Value) h hi.1, hi.2.mono h⟩
  | _ => exact hi

instance valuedIterator : Valued Iterator := ⟨Iterator.Clear, fun h hi => Iterator.Clear.mono h hi⟩

instance valuedCell : Valued Cell where
  clear V W
    | .list items | .set items => Valued.clear V W items
    | .dict entries => Valued.clear V W entries
    | .iterator i => i.Clear V W
  mono {_ _ _ c} h hc := by
    cases c with
    | list => exact Valued.mono (α := Array Value) h hc
    | dict => exact Valued.mono (α := Array (Value × Value)) h hc
    | set => exact Valued.mono (α := Array Value) h hc
    | iterator => exact Iterator.Clear.mono h hc

end Instances

end LambdaText
