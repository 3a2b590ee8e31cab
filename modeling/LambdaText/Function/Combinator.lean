/-!
# Combined functions

Functions made from functions. `Combinator` says how they are made; the meaning of each is written
for any way of calling a function, so that it covers effects and failures of the parts.
-/

namespace LambdaText.Function

/-- A combined function over values of a type. -/
inductive Combinator (α : Type) where
  | constant (value : α)
  | compose (functions : List α)
  | sequence (functions : List α)
  | flip (function : α)
  | uncurry (function : α)
  /-- Calls a function if a test holds, and a fallback if not; both may be absent. -/
  | guarded (function : α) (test fallback : Option α)
  | returning (function : α)
  | filterAt (function index filter : α)
  | filterSlice (function filter first last : α)
  | negate (function : α)
  | invoke (name : α) (arguments : List α)
  | pluck (name : α)
  | iterate (test function : α)
  | saturate (function : α) (arguments : List α)

def Combinator.name {α : Type} : Combinator α → String
  | constant _ => "K.<locals>.constant"
  | compose _ => "compose.<locals>.composed"
  | sequence _ => "sequence.<locals>.sequenced"
  | flip _ => "flip.<locals>.flipped"
  | uncurry _ => "uncurry.<locals>.uncurried"
  | guarded _ _ _ => "guard.<locals>.guarded"
  | returning _ => "returning.<locals>.chained"
  | filterAt _ _ _ => "prefilter_at.<locals>.prefiltered"
  | filterSlice _ _ _ _ => "prefilter_slice.<locals>.prefiltered"
  | negate _ => "not_.<locals>.negated"
  | invoke _ _ => "invoke.<locals>.invoker"
  | pluck _ => "pluck.<locals>.plucker"
  | iterate _ _ => "until.<locals>.iterate"
  | saturate _ _ => "saturate.<locals>.saturated"

/-- The names of the arguments that a combined function demands. -/
def Combinator.demanded {α : Type} : Combinator α → List String
  | returning _ => ["receiver"]
  | invoke _ _ => ["obj"]
  | pluck _ => ["obj"]
  | iterate _ _ => ["value"]
  | _ => []

def Combinator.takesMore {α : Type} : Combinator α → Bool
  | pluck _ | iterate _ _ => false
  | _ => true

section Meaning

variable {α : Type} {m : Type → Type} [Monad m] (call : α → List α → m α)

/-- Applies functions in order: the first to all arguments, every later one to the result before.
Without functions the first argument is given back, or `nothing`. -/
def callInSequence (nothing : α) : List α → List α → m α
  | [], arguments => pure (arguments.headD nothing)
  | f :: rest, arguments => do callInSequence nothing rest [← call f arguments]

def exchange : List α → List α
  | a :: b :: rest => b :: a :: rest
  | arguments => arguments

/-- Calls a function with the first argument, and the result with the others. -/
def callUncurried (f : α) (arguments : List α) : m α := do
  let g ← call f (arguments.take 1)
  call g (arguments.drop 1)

/-- Calls a part that may be absent; then the first argument is the result. -/
def callOrFirst (nothing : α) (part : Option α) (arguments : List α) : m α :=
  match part with
  | some f => call f arguments
  | none => pure (arguments.headD nothing)

/-- Calls a function where a test holds, and a fallback elsewhere. -/
def callGuarded (truth : α → m Bool) (nothing f : α) (test fallback : Option α)
    (arguments : List α) : m α := do
  if ← truth (← callOrFirst call nothing test arguments) then call f arguments
  else callOrFirst call nothing fallback arguments

/-- Calls a function and gives the first argument back. -/
def callReturning (f receiver : α) (more : List α) : m α := do
  let _ ← call f (receiver :: more)
  pure receiver

end Meaning

end LambdaText.Function
