import LambdaText.Code.Free
import LambdaText.Eval.Assign

/-!
# Calls of functions

Sharing the arguments of a call out among the parameters of a function, and running its body. What
is wrong with the arguments is found in a fixed order: keywords first, then too many positions, then
missing ones.
-/

namespace LambdaText

open LambdaText.Code

def quotedNames (names : List String) : String :=
  match names.map (fun n => s!"'{n}'") with
  | [] => ""
  | [a] => a
  | [a, b] => a ++ " and " ++ b
  | many => ", ".intercalate (many.take (many.length - 1)) ++ ", and " ++ (many.getLast?.getD "")

def plural (n : Nat) : String := if n = 1 then "" else "s"

def ofKinds (parameters : List Parameter) (kinds : List ParameterKind) : List Parameter :=
  parameters.filter fun p => kinds.contains p.kind

def positionalParameters (parameters : List Parameter) : List Parameter :=
  ofKinds parameters [.positionalOnly, .standard]

def nameOfKind? (parameters : List Parameter) (kind : ParameterKind) : Option String :=
  (ofKinds parameters [kind]).head?.map Parameter.name

/-- The message about too many positions: how many positions are taken and were given, how many of
them have defaults, and how many keyword-only parameters were given. -/
def tooManyMessage (name : String) (taken withDefault given keywordOnly : Nat) : String :=
  let count := if withDefault = 0 then toString taken else s!"from {taken - withDefault} to {taken}"
  let noun := if withDefault = 0 then plural taken else "s"
  let extra :=
    if keywordOnly = 0 then ""
    else s!" positional argument{plural given} (and {keywordOnly} " ++
      s!"keyword-only argument{plural keywordOnly})"
  let verb := if given = 1 && keywordOnly = 0 then "was" else "were"
  s!"{name}() takes {count} positional argument{noun} but {given}{extra} {verb} given"

def missingMessage (name sort : String) (names : List String) : String :=
  let count := names.length
  s!"{name}() missing {count} required {sort} argument{plural count}: {quotedNames names}"

def bindKeywords (name : String) (parameters : List Parameter) :
    List (String × Value) → List (String × Value) → List (String × Value) →
      Run (List (String × Value) × List (String × Value))
  | bound, others, [] => return (bound, others)
  | bound, others, (k, v) :: rest => do
    if (ofKinds parameters [.standard, .keywordOnly]).any fun p => p.name == k then
      if bound.any fun b => b.1 == k then
        Run.raise "TypeError" s!"{name}() got multiple values for argument '{k}'"
      else bindKeywords name parameters (bound ++ [(k, v)]) others rest
    else if (nameOfKind? parameters .keywords).isSome then
      bindKeywords name parameters bound (others ++ [(k, v)]) rest
    else
      let strict := (ofKinds parameters [.positionalOnly]).map Parameter.name
      if ((k, v) :: rest).any fun e => strict.contains e.1 then
        let names := (((k, v) :: rest).filter fun e => strict.contains e.1).map Prod.fst
        let row := commaList names
        Run.raise "TypeError"
          s!"{name}() got some positional-only arguments passed as keyword arguments: '{row}'"
      else Run.raise "TypeError" s!"{name}() got an unexpected keyword argument '{k}'"

/-- The values of the names of a call. -/
def bindArguments (name : String) (parameters : List Parameter)
    (defaults : List (String × Value)) (positions : List Value)
    (keywords : List (String × Value)) : Run (List (String × Value)) := do
  let taking := (positionalParameters parameters).map Parameter.name
  let keywordOnly := (ofKinds parameters [.keywordOnly]).map Parameter.name
  let direct := taking.zip positions
  let (bound, others) ← bindKeywords name parameters direct [] keywords
  let isBound := fun (n : String) => bound.any fun b => b.1 == n
  let hasDefault := fun (n : String) => (defaults.lookup n).isSome
  if taking.length < positions.length && (nameOfKind? parameters .variadic).isNone then
    Run.raise "TypeError"
      (tooManyMessage name taking.length (taking.countP hasDefault) positions.length
        (keywordOnly.countP isBound))
  let missing := taking.filter fun n => !isBound n && !hasDefault n
  if !missing.isEmpty then
    Run.raise "TypeError" (missingMessage name "positional" missing)
  let missing := keywordOnly.filter fun n => !isBound n && !hasDefault n
  if !missing.isEmpty then
    Run.raise "TypeError" (missingMessage name "keyword-only" missing)
  let filled := defaults.filter fun d => !isBound d.1
  let rest := match nameOfKind? parameters .variadic with
    | some n => [(n, Value.tuple (positions.drop taking.length))]
    | none => []
  let spread ← match nameOfKind? parameters .keywords with
    | some n => pure [(n, ← Run.newDict (others.map fun (k, v) => (Value.text k, v)).toArray)]
    | none => pure []
  return bound ++ filled ++ rest ++ spread

variable (m : Machine)

def Body.free : Body → List String
  | .value e => e.free
  | .block _ => []

/-- The names that a function leaves to the scope around it. -/
def Routine.free (code : Routine) : List String := without code.body.free code.locals

/-- The names that a function captures, if it computes an expression. -/
def Routine.captured? (code : Routine) : Option (List String) :=
  match code.body with
  | .value _ => some code.free
  | .block _ => none

def frameOf (code : Routine) (values : List (String × Value)) : Frame where
  slots := (code.locals.map fun n => (n, values.lookup n)).toArray
  globals := code.globals
  captured := code.captured?

def runBody (scope : Scope) (code : Routine) : Run Value := do
  match code.body with
  | .value e => m.expr scope e
  | .block b =>
    match ← m.block scope b with
    | .give v => return v
    | _ => return .none

def invoke (code : Routine) (scope : Scope) (name : String) (defaults : List (String × Value))
    (positions : List Value) (keywords : List (String × Value)) : Run Value := do
  let values ← bindArguments name code.parameters defaults positions keywords
  let a ← Run.enterFrame (frameOf code values)
  let inner : Scope := ⟨a :: scope.frames, scope.globals, name ++ ".<locals>."⟩
  if code.yields then
    Run.newIterator "generator" (.routine inner code)
  else Run.deeper (runBody m inner code)

end LambdaText
