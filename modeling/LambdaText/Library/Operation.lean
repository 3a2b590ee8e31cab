import LambdaText.Value.Datum
import LambdaText.Eval.Invoke
import LambdaText.Library.Functions
import LambdaText.Source.FreeNames
import LambdaText.Source.Validation

/-!
# Public operations

The operations that the library offers by name, what they take, and what they do. An operation
refuses arguments that do not fit its parameters before it does anything.
-/

namespace LambdaText

open LambdaText.Code LambdaText.Function LambdaText.Log LambdaText.Text

inductive Operation where
  | compileLambda
  | newCompiler
  | newCompiled
  | freeVariables
  | formOf
  | newSource
  | newSettings
  | loadSettings
  | asCallable
  | call
  | apply
  | curry (right : Bool)
  | countedCurry (right : Bool)
  | partially
  | saturate
  | hole
  | newCurried
  | newTemplate
  | identity
  | constant
  | compose
  | sequence
  | flip
  | uncurry
  | guarded
  | returning
  | filterAt
  | filterSlice
  | negate
  | invoke
  | pluck
  | iterate
  | mapItems
  | foldLeft
  | foldRight
  | selectItems
  | someItem
  | everyItem
  | zipItems
  | syntaxError
  | coercionError
  | sharedCompiler
  | resetShared

namespace Operation

def names : List (String × Operation) :=
  [("compile_lambda", compileLambda), ("LambdaCompiler", newCompiler),
   ("CompiledLambda", newCompiled), ("free_variables", freeVariables), ("LambdaForm", formOf),
   ("LambdaSource", newSource), ("CompilerSettings", newSettings),
   ("load_settings", loadSettings), ("as_callable", asCallable), ("to_function", asCallable),
   ("call", call), ("apply", apply), ("curry", curry false), ("rcurry", curry true),
   ("ncurry", countedCurry false), ("rncurry", countedCurry true), ("partial", partially),
   ("saturate", saturate), ("Hole", hole), ("CurriedCallable", newCurried),
   ("PartialCallable", newTemplate), ("I", identity), ("K", constant), ("compose", compose),
   ("sequence", sequence), ("flip", flip), ("uncurry", uncurry), ("guard", guarded),
   ("returning", returning), ("prefilter_at", filterAt), ("prefilter_slice", filterSlice),
   ("not_", negate), ("invoke", invoke), ("pluck", pluck), ("until", iterate), ("map", mapItems),
   ("reduce", foldLeft), ("foldl", foldLeft), ("foldr", foldRight), ("select", selectItems),
   ("filter", selectItems), ("some", someItem), ("every", everyItem), ("zip", zipItems),
   ("LambdaSyntaxError", syntaxError), ("CoercionTypeError", coercionError),
   ("get_default_compiler", sharedCompiler), ("reset_default_compiler", resetShared)]

def ofName? (name : String) : Option Operation := names.lookup name

/-- What an operation takes: the names it demands, the names that have defaults, and the name for
all that is left over. -/
structure Demand where
  required : List String := []
  optional : List (String × Value) := []
  more : Option String := none

def demand : Operation → Demand
  | compileLambda => { required := ["text"], optional := [("namespace", .none)] }
  | asCallable => { required := ["value"], optional := [("namespace", .none)] }
  | newCompiler => { optional := [("settings", .none)] }
  | newCompiled => { required := ["source", "function"] }
  | freeVariables => { required := ["text"], optional := [("self_keyword", .text "self")] }
  | formOf | coercionError => { required := ["value"] }
  | newSource | newSettings | hole | sharedCompiler | resetShared => {}
  | loadSettings => { optional := [("environ", .none)] }
  | call | curry _ | saturate => { required := ["fn"], more := "args" }
  | apply => { required := ["fn", "args"] }
  | countedCurry _ => { required := ["n", "fn"], more := "args" }
  | partially => { required := ["fn"], more := "template" }
  | newCurried =>
    { required := ["fn"]
      optional := [("args", .tuple []), ("arity", .none), ("right", .bool false)] }
  | newTemplate => { required := ["fn", "template"] }
  | identity | constant => { required := ["x"] }
  | compose | sequence => { more := "fns" }
  | flip | uncurry | returning | negate => { required := ["fn"] }
  | guarded => { required := ["fn"], optional := [("guard", .none), ("otherwise", .none)] }
  | filterAt => { required := ["fn", "index", "filter"] }
  | filterSlice =>
    { required := ["fn", "filter"], optional := [("start", .int 0), ("end", .none)] }
  | invoke => { required := ["method_name"], more := "args" }
  | pluck => { required := ["name"] }
  | iterate => { required := ["pred", "fn"] }
  | mapItems | selectItems | someItem | everyItem => { required := ["fn", "sequence"] }
  | foldLeft | foldRight => { required := ["fn", "init", "sequence"] }
  | zipItems => { more := "sequences" }
  | syntaxError =>
    { required := ["message", "expression"], optional := [("error_details", .text "")] }

def Demand.parameters (d : Demand) : List Parameter :=
  (d.required ++ d.optional.map Prod.fst).map Parameter.plain ++
    (d.more.map fun n => Parameter.mk n .variadic none).toList

/-- The arguments of a call: those that have names, in order, and the further ones. -/
def Demand.share (d : Demand) (name : String) (positions : List Value) (keywords : Keywords) :
    Run (List Value × List Value) := do
  let values ← bindArguments name d.parameters d.optional positions keywords
  let value := fun (n : String) => (values.lookup n).getD .none
  let more := match d.more.map value with
    | some (.tuple items) => items
    | _ => []
  return ((d.required ++ d.optional.map Prod.fst).map value, more)

/-! ### Single operations -/

def freeNamesOf (text receiver : Value) : Run Value := do
  match text, receiver with
  | .text t, .text r =>
    let free := Source.freeNames r.toList t.toList
    Run.log freeNamesLog .debug s!"Free variables of '{t}': {textList free}"
    Run.newList (free.map Value.text).toArray
  | _, _ => Run.raise "TypeError" "expected string or bytes-like object"

def formNamed (v : Value) : Run Value := do
  match v with
  | .text s =>
    match Form.ofName? s with
    | some form => return .text form.name
    | none => Run.raise "ValueError" s!"{quote s} is not a valid LambdaForm"
  | _ =>
    demandKey v
    Run.raise "ValueError" s!"{← shown v} is not a valid LambdaForm"

def keywordData : Keywords → Run (List (Datum × Datum))
  | [] => return []
  | (k, v) :: rest => do
    let d ← v.datum
    return (.text k, d) :: (← keywordData rest)

def positionalFields {α : Type} : Run α :=
  Run.raise "TypeError" "BaseModel.__init__() takes 1 positional argument"

def sourceOf (keywords : Keywords) : Run Value := do
  let s ← demandChecked (Source.ofDatum (.dict (← keywordData keywords)))
  return .source (← Run.fresh) s

def settingsOf (keywords : Keywords) : Run Value := do
  let fields ← keywordData keywords
  let s ← demandChecked (Settings.ofFields (Datum.field? fields))
  return .settings (← Run.fresh) s

def settingsFrom (v : Value) : Run Value := do
  let s ← match v with
    | .none => environmentSettings
    | .dict a =>
      match ← Value.datum (.dict a) with
      | .dict entries => LambdaText.loadSettings (Datum.field? entries)
      | _ => pure {}
    | v => Run.raise "AttributeError" s!"'{v.kindName}' object has no attribute 'get'"
  return .settings (← Run.fresh) s

def compilerFor (v : Value) : Run Value := do
  if ← truth v then
    match v with
    | .settings _ s => return .compiler (← LambdaText.newCompiler s)
    | _ => Run.raise "AttributeError" s!"'{v.kindName}' object has no attribute 'cache_size'"
  else return .compiler (← LambdaText.newCompiler {})

def compiledOf (source function : Value) : Run Value := do
  match source with
  | .source _ s => wrapCompiled s function
  | v => Run.raise "AttributeError" s!"'{v.kindName}' object has no attribute 'form'"

def syntaxErrorOf (message expression details : Value) : Run Value := do
  let text := s!"{← plain message}\nInput: '{← plain expression}'"
  let text ← if ← truth details then pure s!"{text}\nDetails: {← plain details}" else pure text
  return .error "LambdaSyntaxError" [.text text] none

def coercionErrorOf (v : Value) : Run Value := do
  return .error "CoercionTypeError" [.text (Fault.notCallable v.kindName (← shown v)).message] none

variable (m : Machine)

def run (op : Operation) (arguments more : List Value) : Run Value := do
  match op, arguments with
  | compileLambda, [text, names] => compileWith m (← LambdaText.sharedCompiler) text names
  | newCompiler, [settings] => compilerFor settings
  | newCompiled, [source, f] => compiledOf source f
  | freeVariables, [text, receiver] => freeNamesOf text receiver
  | formOf, [v] => formNamed v
  | loadSettings, [v] => settingsFrom v
  | asCallable, [v, names] => LambdaText.asCallable m v names
  | call, [f] => callOn m (← coerce m f) more
  | apply, [f, v] =>
    let f ← coerce m f
    callOn m f (← itemsOf m v)
  | curry right, [f] => hold m right f more
  | countedCurry right, [n, f] => holdCounted m right n f more
  | partially, [f] => holdTemplate m f more
  | saturate, [f] => combineOne m (Combinator.saturate · more) f
  | hole, [] => return .hole
  | newCurried, [function, held, count, right] =>
    LambdaText.newCurried { function, held := ← itemsOf m held, count := present? count, right }
  | newTemplate, [function, items] =>
    return .template (← Run.fresh) { function, items := ← itemsOf m items }
  | identity, [x] => return x
  | constant, [x] => newCombined (.constant x)
  | compose, [] => combineRow m .compose more
  | sequence, [] => combineRow m .sequence more
  | flip, [f] => combineOne m .flip f
  | uncurry, [f] => combineOne m .uncurry f
  | guarded, [f, test, fallback] => combineGuarded m f test fallback
  | returning, [f] => combineOne m .returning f
  | filterAt, [f, index, filter] => combineTwo m (Combinator.filterAt · index ·) f filter
  | filterSlice, [f, filter, first, last] =>
    combineTwo m (Combinator.filterSlice · · first last) f filter
  | negate, [f] => combineOne m .negate f
  | invoke, [name] => newCombined (.invoke name more)
  | pluck, [name] => newCombined (.pluck name)
  | iterate, [test, f] => combineTwo m .iterate test f
  | mapItems, [f, v] => LambdaText.mapItems m f v
  | foldLeft, [f, start, v] => LambdaText.foldLeft m f start v
  | foldRight, [f, start, v] => LambdaText.foldRight m f start v
  | selectItems, [f, v] => LambdaText.selectItems m f v
  | someItem, [f, v] => LambdaText.someItem m f v
  | everyItem, [f, v] => LambdaText.everyItem m f v
  | zipItems, [] => LambdaText.zipItems m more
  | syntaxError, [message, expression, details] => syntaxErrorOf message expression details
  | coercionError, [v] => coercionErrorOf v
  | sharedCompiler, [] => return .compiler (← LambdaText.sharedCompiler)
  | resetShared, [] =>
    LambdaText.resetShared
    return .none
  | _, _ => return .none

/-- Calls an operation with positions and keywords. Coercion looks at its first position before
anything else; fields are given by keywords only. -/
def invokeWith (op : Operation) (name : String) (positions : List Value) (keywords : Keywords) :
    Run Value := do
  match op, positions with
  | newSource, [] => sourceOf keywords
  | newSettings, [] => settingsOf keywords
  | newSource, _ | newSettings, _ => positionalFields
  | asCallable, [] =>
    Run.raise "TypeError" s!"{name} requires at least 1 positional argument"
  | _, _ =>
    let (arguments, more) ← op.demand.share name positions keywords
    op.run m arguments more

end Operation

def callOperationNamed (m : Machine) (name : String) (positions : List Value)
    (keywords : Keywords) : Run Value := do
  match Operation.ofName? name with
  | some op => op.invokeWith m name positions keywords
  | none => Run.raise "TypeError" s!"'{name}' is not callable"

end LambdaText
