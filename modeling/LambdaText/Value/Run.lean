import LambdaText.Function.Cache
import LambdaText.Value.Basic

/-!
# Runs

A computation changes a state, and ends with a value, or with an error value, or not at all. The
state holds the cells and frames, the log, the variables of the environment, and the compilers with
the one that is shared.

What the host does beyond the modelled values and functions is left open: `Run.leaveOpen` has no
result, like a computation that does not end.
-/

namespace LambdaText

open LambdaText.Function

/-- A compiler: its settings and the texts it has compiled lately, if it keeps any. -/
structure Compiler where
  settings : Settings
  cache : Option (Cache String Value)

/-- What changes during a run. -/
structure State where
  cells : Array Cell := #[]
  frames : Array Frame := #[]
  serial : Nat := 0
  log : Array Log.Record := #[]
  output : String := ""
  environment : List (String × String) := []
  compilers : Array Compiler := #[]
  shared : Option Nat := none
  depth : Nat := 0
  handled : List Value := []
  /-- Whether a scope has been shown as such: its names as a list, or its global names as a
  dictionary. -/
  exposed : Bool := false

/-- A computation. Without a result it has not ended within the bound on its steps, or it does
something that is left open. -/
abbrev Run (α : Type) := ExceptT Value (StateT State Option) α

namespace Run

variable {α σ : Type}

def diverge : Run α := fun _ => none

/-- A computation of the host of which nothing is said here, not even that it ends. -/
abbrev leaveOpen : Run α := diverge

def raise (kind message : String) : Run α := throw (.error kind [.text message] none)

def raiseFault (kind : String) (fault : Fault) : Run α :=
  throw (.error kind [.text fault.detailedMessage] (some (.fault fault)))

def raiseIssues (issues : List Issue) : Run α :=
  throw (.error "ValidationError" [] (some (.issues issues)))

def log (source : String) (level : Log.Level) (message : String) : Run Unit :=
  modify fun s => { s with log := s.log.push ⟨source, level, message⟩ }

def expose : Run Unit := modify fun s => { s with exposed := true }

def fresh : Run Nat := modifyGet fun s => (s.serial, { s with serial := s.serial + 1 })

/-- The bound on the repetitions of a loop. -/
def maxSteps : Nat := Nat.pow 2 60

/-- Repeats a step until it gives a result, at most as often as said. -/
def repeatWithin (step : σ → Run (σ ⊕ α)) : Nat → σ → Run α
  | 0, _ => diverge
  | n + 1, s => do
    match ← step s with
    | .inl s => repeatWithin step n s
    | .inr a => pure a

/-- Repeats a step from a state on until it gives a result, however often that is. -/
def iterateFrom (step : σ → Run (σ ⊕ α)) (s : σ) (t : State) : Option (Except Value α × State) :=
  step s t >>= fun
    -- Put together by `apply`, the call keeps no position in the source.
    | (.ok (.inl s), t) => by
      apply iterateFrom
      · exact step
      · exact s
      · exact t
    | (.ok (.inr a), t) => some (.ok a, t)
    | (.error e, t) => some (.error e, t)
partial_fixpoint

/-- Repeats a step until it gives a result. -/
def iterate (step : σ → Run (σ ⊕ α)) (s : σ) : Run α := fun t => iterateFrom step s t

/-! ### Cells -/

def alloc (c : Cell) : Run Nat :=
  modifyGet fun s => (s.cells.size, { s with cells := s.cells.push c })

def cell (address : Nat) : Run Cell := do
  return (← get).cells[address]?.getD (.list #[])

def setCell (address : Nat) (c : Cell) : Run Unit :=
  modify fun s => { s with cells := s.cells.setIfInBounds address c }

def listItems (address : Nat) : Run (Array Value) := do
  match ← cell address with
  | .list items => return items
  | _ => return #[]

def dictEntries (address : Nat) : Run (Array (Value × Value)) := do
  match ← cell address with
  | .dict entries => return entries
  | _ => return #[]

def setItems (address : Nat) : Run (Array Value) := do
  match ← cell address with
  | .set items => return items
  | _ => return #[]

def newList (items : Array Value) : Run Value := return .list (← alloc (.list items))

def newDict (entries : Array (Value × Value)) : Run Value := return .dict (← alloc (.dict entries))

def newSet (items : Array Value) : Run Value := return .set (← alloc (.set items))

def newIterator (kind : String) (i : Iterator) : Run Value :=
  return .iterator kind (← alloc (.iterator i))

/-! ### Frames -/

def enterFrame (f : Frame) : Run Nat :=
  modifyGet fun s => (s.frames.size, { s with frames := s.frames.push f })

def frame (address : Nat) : Run Frame := do
  return (← get).frames[address]?.getD {}

def setFrame (address : Nat) (f : Frame) : Run Unit :=
  modify fun s => { s with frames := s.frames.setIfInBounds address f }

/-- The most functions that run at once. -/
def maxDepth : Nat := 985

def deeper (r : Run α) : Run α := do
  let depth := (← get).depth
  if maxDepth ≤ depth then
    raise "RecursionError" "maximum recursion depth exceeded"
  else
    modify fun s => { s with depth := depth + 1 }
    let result ← tryCatch (Except.ok <$> r) fun e => pure (Except.error e)
    modify fun s => { s with depth }
    match result with
    | .ok a => pure a
    | .error e => throw e

end Run

end LambdaText
