import LambdaText.Eval.Compile
import LambdaText.Function.Sequence

/-!
# Operations on sequences

Walks over the items of any value that has items. The items of a value that cannot change are a
list; all others are taken one by one, since the function of the walk may change them. Nothing but
the walk knows how far it is in a list or a range, so that it keeps a position and no iterator.
-/

namespace LambdaText

open LambdaText.Function

variable (m : Machine)

def fixedItems? : Value → Option (List Value)
  | .tuple items => some items
  | .text s => some (s.toList.map fun c => .text c.toString)
  | .bytes b => some (b.map fun x => .int x.toNat)
  | _ => none

section

variable {σ ρ : Type} (w : Walk Run Value σ ρ)

def walkRange (step : Int) : Int → Nat → σ → Run ρ
  | _, 0, s => w.final s
  | i, n + 1, s => do
    match ← w.step s (.int i) with
    | .inl s => walkRange step (i + step) n s
    | .inr r => return r

/-- Takes the item of a list at a position, if the list still has one there. -/
def listStep (address : Nat) (place : Nat × σ) : Run ((Nat × σ) ⊕ ρ) := do
  match (← Run.listItems address)[place.1]? with
  | some v =>
    match ← w.step place.2 v with
    | .inl s => return .inl (place.1 + 1, s)
    | .inr r => return .inr r
  | none => return .inr (← w.final place.2)

/-- Walks over a list, which may grow on the way, though not without bound. -/
def walkList (address : Nat) (s : σ) : Run ρ := do
  let size := (← Run.listItems address).size
  Run.repeatWithin (listStep w address) (size + Run.maxSteps) (0, s)

def walkOver (s : σ) (v : Value) : Run ρ := do
  match v with
  | .list address => walkList w address s
  | .range first last step => walkRange w step first (rangeLength first last step) s
  | v =>
    match fixedItems? v with
    | some items => w.over s items
    | none => foldItems m (← iterator v) w.step w.final s

end

def callOn (f : Value) (positions : List Value) : Run Value := m.call f positions []

/-- A function for a value that stands for one. -/
def coerce (v : Value) : Run Value := asCallable m v .none

def mapItems (f v : Value) : Run Value := do
  let f ← coerce m f
  walkOver m (mapping (callOn m) Run.newList f) #[] v

def foldLeft (f start v : Value) : Run Value := do
  let f ← coerce m f
  walkOver m (folding (callOn m) f) start v

def foldRight (f start v : Value) : Run Value := do
  let f ← coerce m f
  (foldingBack (callOn m) f).over start (← itemsOf m v).reverse

def selectItems (f v : Value) : Run Value := do
  let f ← coerce m f
  walkOver m (selecting (callOn m) truth Run.newList f) #[] v

/-- The first result that holds, or the last one. -/
def someItem (f v : Value) : Run Value := do
  let f ← coerce m f
  walkOver m (deciding (callOn m) truth true f) (.bool false) v

/-- The first result that does not hold, or the last one. -/
def everyItem (f v : Value) : Run Value := do
  let f ← coerce m f
  walkOver m (deciding (callOn m) truth false f) (.bool true) v

def newRows (rows : List (List Value)) : Run Value := do
  Run.newList (← rows.mapM fun row => Run.newList row.toArray).toArray

/-- The items of all values, unless one of them gives its items one by one. -/
def rowsAtHand? : List Value → Run (Option (List (List Value)))
  | [] => return some []
  | v :: rest => do
    match v with
    | .iterator _ _ => return none
    | _ => return (← rowsAtHand? rest).map ((← itemsOf m v) :: ·)

/-- Exchanges the rows and columns of sequences, as far as the shortest one goes. -/
def zipItems (sequences : List Value) : Run Value := do
  let iterators ← sequences.mapM iterator
  match ← rowsAtHand? m sequences with
  | some rows => newRows (transpose rows)
  | none =>
    let it ← Run.newIterator "zip" (.zip iterators false)
    foldItems m it
      (fun rows row => do
        let row ← Run.newList (← itemsOf m row).toArray
        return .inl (rows.push row))
      Run.newList (#[] : Array Value)

end LambdaText
