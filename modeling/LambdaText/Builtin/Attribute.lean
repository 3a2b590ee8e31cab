import LambdaText.Builtin.Containers
import LambdaText.Builtin.Text
import LambdaText.Value.Numeric

/-!
# Attributes

What a value shows under a name: parts of numbers, parts of what the library made, and methods with
the value as their receiver. The host gives its values many more parts, mostly under names with
underscores; those that `leavesOpen` tells are left open.
-/

namespace LambdaText

open LambdaText.Function LambdaText.Number

def methodsOf (kind : String) : List String :=
  match kind with
  | "str" => textMethods
  | "list" => listMethods
  | "tuple" => tupleMethods
  | "dict" => dictMethods
  | "set" => setMethods
  | "range" => tupleMethods
  | "int" | "bool" => ["bit_count", "bit_length", "conjugate"]
  | "float" => ["as_integer_ratio", "conjugate", "is_integer"]
  | "complex" => ["conjugate"]
  | "bytes" => ["decode", "hex"]
  | _ => []

/-- The names that stand for operations on values of any suitable class. -/
def operationNames (v : Value) : List String :=
  let sized := match v with
    | .text _ | .bytes _ | .tuple _ | .list _ | .dict _ | .set _ | .range _ _ _ | .view _ _ =>
      ["__len__", "__iter__", "__contains__"]
    | .iterator _ _ => ["__iter__", "__next__"]
    | _ => []
  let indexed := match v with
    | .text _ | .bytes _ | .tuple _ | .list _ | .dict _ | .range _ _ _ => ["__getitem__"]
    | _ => []
  let callable := if v.isCallable then ["__call__"] else []
  sized ++ indexed ++ callable ++ ["__eq__", "__ne__", "__repr__", "__str__", "__hash__"]

def lastName (name : String) : String := (name.splitOn ".").getLast?.getD name

def numberAttribute? (v : Value) (name : String) : Option Value :=
  match name, v.amount? with
  | "real", some (.int i) => some (.int i)
  | "imag", some (.int _) => some (.int 0)
  | "numerator", some (.int i) => some (.int i)
  | "denominator", some (.int _) => some (.int 1)
  | "real", some (.float x) => some (.float x)
  | "imag", some (.float _) => some (.float 0)
  | "real", some (.complex re _) => some (.float re)
  | "imag", some (.complex _ im) => some (.float im)
  | _, _ => none

def sourceAttribute? (serial : Nat) (s : Source) (name : String) : Run (Option Value) := do
  match name with
  | "text" => return some (.text s.text)
  | "form" => return some (.text s.form.name)
  | "params" => return some (← Run.newList (s.parameters.map Value.text).toArray)
  | "body" => return some ((s.body?.map Value.text).getD .none)
  | "inner" => return some ((s.inner?.map (Value.source serial)).getD .none)
  | "depth" => return some (.int s.depth)
  | "final_body" => return some (.bound (.source serial s) "final_body")
  | _ => return none

def errorAttribute? (arguments : List Value) (cause : Option Cause) (name : String) :
    Option Value :=
  match name, cause with
  | "args", _ => some (.tuple arguments)
  | "expression", some (.fault f) => f.expression?.map Value.text
  | "error_details", some (.fault f) =>
    f.expression?.map fun _ => .text (if f.hasDetails then Fault.detailsMark else "")
  | _, _ => none

def libraryAttribute? (v : Value) (name : String) : Run (Option Value) := do
  match v with
  | .compiled serial s f =>
    match name with
    | "source" => return some (.source serial s)
    | "function" => return some f
    | "body" => return some (.text s.finalBody)
    | "text" | "form" | "params" => sourceAttribute? serial s name
    | _ => return none
  | .curried _ c =>
    match name with
    | "fn" => return some c.function
    | "args" => return some (.tuple c.held)
    | "arity" => return some (c.count.getD .none)
    | "right" => return some c.right
    | _ => return none
  | .template _ t =>
    match name with
    | "fn" => return some t.function
    | "template" => return some (.tuple t.items)
    | "positions" =>
      return some (.tuple ((holePositions Value.isHole 0 t.items).map fun (i : Nat) => Value.int i))
    | "holes" => return some (.int (holePositions Value.isHole 0 t.items).length)
    | _ => return none
  | .source serial s => sourceAttribute? serial s name
  | .settings _ s =>
    match name with
    | "section_param_prefix" => return some (.text s.operandName)
    | "self_keyword" => return some (.text s.receiver)
    | "cache_size" => return some (.int s.cacheSize)
    | "log_level" => return some (.text s.logLevel.name)
    | _ => return none
  | .compiler a =>
    match name with
    | "settings" => return ((← get).compilers[a]?).map fun c => .settings a c.settings
    | "compile" | "compile_statements" | "cache_info" => return some (.bound v name)
    | _ => return none
  | _ => return none

def ownName? : Value → Option String
  | .builtin n => some n
  | .type n => some n
  | .method _ n => some n
  | .bound _ n => some n
  | .function _ _ _ n _ => some n
  | .combined _ c => some c.name
  | _ => none

/-- The name of a function or class, behind the class that it belongs to. -/
def qualifiedName? : Value → Option String
  | .method owner n => some (owner ++ "." ++ n)
  | .bound receiver n => some (receiver.kindName ++ "." ++ n)
  | v => ownName? v

/-- The documentation of a function that computes an expression, which has none. -/
def documentation? : Value → Option Value
  | .function _ ⟨_, _, .value _, _, _, _⟩ _ _ _ => some .none
  | _ => none

/-- The parts of values of the host's own classes. -/
def plainAttribute? (v : Value) (name : String) : Option Value :=
  match name, v with
  | "__class__", _ => some (.type v.kindName)
  | _, .module _ => builtinValue? name
  | "__doc__", _ => documentation? v
  | "__name__", _ => (ownName? v).map fun n => .text (lastName n)
  | "__qualname__", _ => (qualifiedName? v).map Value.text
  | "start", .range a _ _ => some (.int a)
  | "stop", .range _ b _ => some (.int b)
  | "step", .range _ _ c => some (.int c)
  | "start", .slice a _ _ => some a
  | "stop", .slice _ b _ => some b
  | "step", .slice _ _ c => some c
  | "__self__", .bound receiver _ => some receiver
  | _, .error _ arguments cause => errorAttribute? arguments cause name
  | _, .type kind => if (methodsOf kind).contains name then some (.method kind name) else none
  | _, _ => numberAttribute? v name

/-! ### Attributes that are left open -/

/-- The classes that the library makes, apart from those of errors. -/
def libraryKinds : List String :=
  ["CompiledLambda", "CompilerSettings", "CurriedCallable", "Hole", "LambdaCompiler", "LambdaSource",
   "PartialCallable"]

def isHostName (name : String) : Bool := name.startsWith "__" && name.endsWith "__"

/-- The names of the host of which it is said for every value whether it has them. -/
def settledNames : List String :=
  ["__call__", "__contains__", "__getitem__", "__globals__", "__iter__", "__len__", "__name__",
   "__next__", "__qualname__", "__self__"]

/-- Further names that the values of a class have, and of which nothing else is said. -/
def openAttributes (kind : String) : List String :=
  match kind with
  | "bool" | "int" => ["as_integer_ratio", "from_bytes", "to_bytes"]
  | "float" => ["fromhex", "hex"]
  | "str" => ["expandtabs", "maketrans", "translate"]
  | "bytes" =>
    ["capitalize", "center", "count", "endswith", "expandtabs", "find", "fromhex", "index", "isalnum",
     "isalpha", "isascii", "isdigit", "islower", "isspace", "istitle", "isupper", "join", "ljust",
     "lower", "lstrip", "maketrans", "partition", "removeprefix", "removesuffix", "replace", "rfind",
     "rindex", "rjust", "rpartition", "rsplit", "rstrip", "split", "splitlines", "startswith",
     "strip", "swapcase", "title", "translate", "upper", "zfill"]
  | "dict" => ["fromkeys"]
  | "set" => ["difference_update", "intersection_update", "symmetric_difference_update"]
  | "slice" => ["indices"]
  | "dict_keys" | "dict_values" | "dict_items" => ["isdisjoint", "mapping"]
  | "generator" =>
    ["__name__", "__qualname__", "close", "gi_code", "gi_frame", "gi_running", "gi_suspended",
     "gi_yieldfrom", "send", "throw"]
  | "async_generator" =>
    ["__name__", "__qualname__", "aclose", "ag_await", "ag_code", "ag_frame", "ag_running",
     "ag_suspended", "asend", "athrow"]
  | "builtin_function_or_method" => ["__self__"]
  | _ =>
    if isErrorKind kind then
      ["add_note", "characters_written", "code", "encoding", "end", "end_lineno", "end_offset",
       "errno", "error_count", "errors", "filename", "filename2", "from_exception_data", "json",
       "lineno", "msg", "name", "obj", "object", "offset", "path", "print_file_and_line", "reason",
       "start", "strerror", "text", "title", "value", "with_traceback"]
    else if libraryKinds.contains kind then
      ["construct", "copy", "dict", "from_orm", "json", "parse_file", "parse_obj", "parse_raw",
       "parser", "schema", "schema_json", "update_forward_refs", "validate"]
    else []

/-- Parts that the values of some classes have, which their classes show in another form. -/
def partNames : List String :=
  ["args", "denominator", "imag", "mro", "numerator", "real", "start", "step", "stop"]

/-- Whether nothing is said of what a value shows under a name. -/
def leavesOpen (v : Value) (name : String) : Bool :=
  match v with
  | .type kind =>
    isHostName name || (openAttributes kind).contains name || partNames.contains name ||
      libraryKinds.contains kind
  | .module _ => isHostName name || openNames.contains name
  | .combined _ _ => isHostName name
  | _ =>
    (isHostName name && !settledNames.contains name) || (openAttributes v.kindName).contains name ||
      (libraryKinds.contains v.kindName && (name.startsWith "_" || name.startsWith "model_"))

/-- What a value shows under a name. The global names of a function are a scope that is shown. -/
def attribute? (v : Value) (name : String) : Run (Option Value) := do
  match ← libraryAttribute? v name with
  | some a => return some a
  | none =>
    match plainAttribute? v name with
    | some a => return some a
    | none =>
      match v, name with
      | .function _ _ scope _ _, "__globals__" =>
        Run.expose
        return some (.dict scope.globals)
      | _, _ =>
        if (methodsOf v.kindName).contains name || (operationNames v).contains name then
          return some (.bound v name)
        else if leavesOpen v name then Run.leaveOpen
        else return none

def attributeOf (v : Value) (name : String) : Run Value := do
  match ← attribute? v name with
  | some a => return a
  | none =>
    match v with
    | .type kind =>
      Run.raise "AttributeError" s!"type object '{kind}' has no attribute '{name}'"
    | .module kind => Run.raise "AttributeError" s!"module '{kind}' has no attribute '{name}'"
    | _ => Run.raise "AttributeError" s!"'{v.kindName}' object has no attribute '{name}'"

/-- Sets an attribute. No value of a body has one that can be set but those that functions, errors
and what the library made may have. -/
def setAttribute (v : Value) (name : String) : Run Unit :=
  match v with
  | .function _ _ _ _ _ | .combined _ _ | .error _ _ _ | .type _ | .module _ => Run.leaveOpen
  | v =>
    if libraryKinds.contains v.kindName then Run.leaveOpen
    else Run.raise "AttributeError" s!"'{v.kindName}' object has no attribute '{name}'"

end LambdaText
