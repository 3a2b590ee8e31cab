/-!
# Functions over sequences

Each operation on a sequence is a walk: a step for every item, which may end the walk early, and a
result at the end. A walk calls its function once for every item that it reaches, in order.
-/

namespace LambdaText.Function

/-- What happens to a state at every item, and what the result is at the end. -/
structure Walk (m : Type → Type) (α σ ρ : Type) where
  step : σ → α → m (σ ⊕ ρ)
  final : σ → m ρ

section Walks

variable {m : Type → Type} [Monad m] {α σ ρ : Type}

def Walk.over (w : Walk m α σ ρ) : σ → List α → m ρ
  | s, [] => w.final s
  | s, a :: rest => do
    match ← w.step s a with
    | .inl s => w.over s rest
    | .inr r => pure r

variable (call : α → List α → m α)

def mapping (collect : Array α → m α) (f : α) : Walk m α (Array α) α where
  step results a := do return .inl (results.push (← call f [a]))
  final := collect

/-- Combines a result with every item, from the left. -/
def folding (f : α) : Walk m α α α where
  step result a := do return .inl (← call f [result, a])
  final := pure

/-- Combines items with a result, for items that come from the right. -/
def foldingBack (f : α) : Walk m α α α where
  step result a := do return .inl (← call f [a, result])
  final := pure

variable (truth : α → m Bool)

/-- Collects the items for which a function holds. -/
def selecting (collect : Array α → m α) (f : α) : Walk m α (Array α) α where
  step kept a := do
    if ← truth (← call f [a]) then return .inl (kept.push a) else return .inl kept
  final := collect

/-- Looks for the first result that counts as `goal`; otherwise the last result is given. -/
def deciding (goal : Bool) (f : α) : Walk m α α α where
  step _ a := do
    let result ← call f [a]
    if (← truth result) == goal then return .inr result else return .inl result
  final := pure

end Walks

def shortest {α : Type} (rows : List (List α)) : Nat := (rows.map List.length).min?.getD 0

/-- The columns of rows, as far as the shortest row goes. -/
def transpose {α : Type} (rows : List (List α)) : List (List α) :=
  (List.range (shortest rows)).map fun j => rows.filterMap fun row => row[j]?

end LambdaText.Function
