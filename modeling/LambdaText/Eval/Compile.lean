import LambdaText.Builtin.Containers
import LambdaText.Code.Statement
import LambdaText.Log.Names
import LambdaText.Source.Reading

/-!
# Compiling texts

A text is read as a source, its body as an expression, and the stages around the body become nested
functions. A block becomes the body of a function of its own. A compiler may keep what it compiled
lately; the shared compiler is made from the environment when it is first used.

Versions of the host differ in the error for a body with a null character. Here it is the
`ValueError` of the older ones; the newer ones find a fault in the body.
-/

namespace LambdaText

open LambdaText.Code LambdaText.Function LambdaText.Log LambdaText.Text

def fail {α : Type} (fault : Fault) : Run α := do
  match fault.record? with
  | some r => Run.log r.source r.level r.message
  | none => pure ()
  Run.raiseFault fault.kind fault

def demandChecked {α : Type} (c : Checked α) : Run α :=
  match c with
  | .ok a => return a
  | .error issues => Run.raiseIssues issues

/-! ### Reading -/

def logSource (s : Source) : Run Unit := do
  if s.form = .implicit then
    Run.log freeNamesLog .debug s!"Free variables of '{s.text}': {textList s.parameters}"
  Run.log readingLog .debug
    s!"Parsed '{s.text}' as {s.form.name} form with params {textList s.parameters}"

def readSource (settings : Settings) (v : Value) : Run Source := do
  match v with
  | .text text =>
    match Source.read settings.operandName.toList settings.receiver.toList text with
    | .ok s =>
      logSource s
      return s
    | .error fault => fail fault
  | _ => fail .notText

def readBlockSource (v : Value) : Run Source := do
  match v with
  | .text text => return .ofBlock text
  | _ => fail .notText

/-! ### From sources to functions -/

/-- The text of a body as it is parsed: in parentheses, so that it may go over lines. -/
def bodyText (body : String) : List Char := '(' :: trim body.toList ++ ['\n', ')']

/-- Whether a text has the character that no code may have. -/
def hasNull (text : List Char) : Bool := text.contains (Char.ofNat 0)

/-- Fails because a text has a character that no code may have. -/
def nullCharacter {α : Type} : Run α :=
  Run.raise "ValueError" "source code string cannot contain null bytes"

def parseBody (s : Source) : Except Fault Expr :=
  if (trim s.finalBody.toList).isEmpty then .error (.emptyBody s.finalText)
  else match Expr.read? (bodyText s.finalBody) with
    | some e => .ok e
    | none => .error (.invalidBody s.finalText)

/-- The body of a source's first function: the functions of the later stages around the body. -/
def stageBody : Source → Expr → Expr
  | .last _ _ _ _, body => body
  | .stage _ _ _ inner, body =>
    .lambda (inner.parameters.map Parameter.plain) (stageBody inner body)

/-- The function that a source stands for, as its parameters and its body. -/
def sourceFunction (s : Source) : Except Fault (List String × Expr) := do
  let body := stageBody s (← parseBody s)
  if isFunction s.parameters body then pure (s.parameters, body)
  else throw (.invalidFunction s.text)

/-- A function without a name. -/
def lambdaRoutine (parameters : List Parameter) (body : Expr) : Routine :=
  let usage := body.usage
  { name := "<lambda>"
    parameters
    body := .value body
    locals := Source.firstOccurrences (parameters.map Parameter.name ++ usage.bound)
    globals := []
    yields := usage.yields }

def namedRoutine (name : String) (parameters : List Parameter) (body : List Stmt) : Routine :=
  let usage := blockUsage body
  { name
    parameters
    body := .block body
    locals := Source.firstOccurrences (usage.locals (parameters.map Parameter.name))
    globals := usage.globals
    yields := usage.yields }

def makeFunction (scope : Scope) (code : Routine) (defaults : List (String × Value)) :
    Run Value := do
  return .function (← Run.fresh) code scope (scope.path ++ code.name) defaults

def blockName : String := "strlambda_fn"

def blockDefinition (text : String) : List Char :=
  s!"def {blockName}(*args):\n".toList ++
    indent "    ".toList (trimFeeds (dedent text.toList)) ++ ['\n']

def blockFunction (text : String) : Except Fault Routine :=
  match Stmt.readModule? (blockDefinition text) with
  | some [.define name parameters hints body] =>
    if isModule [.define name parameters hints body] then
      .ok (namedRoutine name parameters body)
    else .error (.invalidBlock text)
  | _ => .error (.invalidBlock text)

variable (m : Machine)

/-- The cell of the global names for a function: the built-in ones, and those of a namespace. -/
def globalsFor (namespace_ : Value) : Run Nat := do
  let entries := #[(Value.text "__builtins__", Value.module "builtins")]
  let entries ← if ← truth namespace_ then updateEntries m entries (some namespace_) []
    else pure entries
  Run.alloc (.dict entries)

def wrapCompiled (s : Source) (function : Value) : Run Value := do
  let v := Value.compiled (← Run.fresh) s function
  let parameters := commaList s.parameters
  Run.log compiledLog .debug
    s!"CompiledLambda created: form={s.form.name}, params=({parameters})"
  return v

def compileText (settings : Settings) (text namespace_ : Value) : Run Value := do
  let s ← readSource settings text
  if hasNull s.finalBody.toList then nullCharacter
  match sourceFunction s with
  | .error fault => fail fault
  | .ok (parameters, body) =>
    let scope : Scope := ⟨[], ← globalsFor m namespace_, ""⟩
    let code := lambdaRoutine (parameters.map Parameter.plain) body
    wrapCompiled s (← makeFunction scope code [])

def compileBlock (text namespace_ : Value) : Run Value := do
  let s ← readBlockSource text
  if hasNull s.text.toList then nullCharacter
  match blockFunction s.text with
  | .error fault => fail fault
  | .ok code =>
    let scope : Scope := ⟨[], ← globalsFor m namespace_, ""⟩
    let function ← makeFunction scope code []
    dictSet scope.globals (.text blockName) function
    wrapCompiled s function

/-! ### Compilers -/

def compilerSettings (address : Nat) : Run Settings := do
  return ((← get).compilers[address]?.map Compiler.settings).getD {}

def setCache (address : Nat) (cache : Cache String Value) : Run Unit :=
  modify fun s => { s with compilers := s.compilers.modify address fun c =>
    { c with cache := some cache } }

def compilerCache (address : Nat) : Run (Option (Cache String Value)) := do
  return (← get).compilers[address]?.bind Compiler.cache

def compileKept (address : Nat) (cache : Cache String Value) (text : Value) : Run Value := do
  demandKey text
  let key := match text with
    | .text s => some s
    | _ => none
  match key with
  | none =>
    setCache address { cache with misses := cache.misses + 1 }
    compileText m (← compilerSettings address) text .none
  | some key =>
    let (found, cache) := cache.find key
    setCache address cache
    match found with
    | some v => return v
    | none =>
      let v ← compileText m (← compilerSettings address) text .none
      match ← compilerCache address with
      | some cache => setCache address (cache.store key v)
      | none => pure ()
      return v

def compileWith (address : Nat) (text namespace_ : Value) : Run Value := do
  match namespace_, ← compilerCache address with
  | .none, some cache => compileKept m address cache text
  | _, _ => compileText m (← compilerSettings address) text namespace_

/-- The hits, misses, capacity and size of a compiler's cache. -/
def cacheInfo (address : Nat) : Run (Option (Nat × Nat × Nat × Nat)) := do
  return (← compilerCache address).map fun c => (c.hits, c.misses, c.capacity, c.size)

def maxCapacity : Nat := Nat.pow 2 63

def newCompiler (settings : Settings) : Run Nat := do
  if maxCapacity ≤ settings.cacheSize then
    Run.raise "OverflowError" "Python int too large to convert to C ssize_t"
  let cache : Option (Cache String Value) :=
    if settings.cacheSize = 0 then none else some { capacity := settings.cacheSize }
  let address ← modifyGet fun (s : State) =>
    (s.compilers.size, { s with compilers := s.compilers.push ⟨settings, cache⟩ })
  Run.log compilerLog .debug s!"LambdaCompiler initialized (cache_size={settings.cacheSize})"
  return address

def textBefore (a b : String) : Bool :=
  decide (rowStanding (a.toList.map Char.toNat) (b.toList.map Char.toNat) ≠ .greater)

def loadSettings (variableOf : String → Option Datum) : Run Settings := do
  let overrides := Settings.overrides variableOf
  if !overrides.isEmpty then
    let names := (overrides.map Prod.fst).mergeSort textBefore
    Run.log settingsLog .debug s!"Compiler settings overridden from environment: {textList names}"
  demandChecked (Settings.ofVariables variableOf)

def environmentVariable (s : State) (name : String) : Option Datum :=
  (s.environment.lookup name).map Datum.text

def environmentSettings : Run Settings := do
  let s ← get
  loadSettings (environmentVariable s)

/-- The address of the shared compiler, which is made on first use. -/
def sharedCompiler : Run Nat := do
  match (← get).shared with
  | some address => return address
  | none =>
    let address ← newCompiler (← environmentSettings)
    modify fun s => { s with shared := some address }
    return address

/-- Drops the shared compiler, so that the next use makes a new one. -/
def resetShared : Run Unit := modify fun s => { s with shared := none }

/-! ### Coercion -/

/-- Refuses a value that is neither a text nor callable. This is logged before the value is written,
which may fail. -/
def refuse (v : Value) : Run Value := do
  Run.log coercionLog .error (refusalMessage v.kindName)
  let fault := Fault.notCallable v.kindName (← shown v)
  Run.raiseFault fault.kind fault

/-- A callable for a value: a text is compiled, a callable is kept, all else is refused. -/
def asCallable (v namespace_ : Value) : Run Value := do
  match v with
  | .text text =>
    let address ← sharedCompiler
    if Source.hasReturn text.toList then compileBlock m v namespace_
    else compileWith m address v namespace_
  | _ =>
    if v.isCallable then return v else refuse v

end LambdaText
