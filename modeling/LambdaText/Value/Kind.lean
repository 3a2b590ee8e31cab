import LambdaText.Code.Scope
import LambdaText.Number.Residue
import LambdaText.Value.Basic

/-!
# Kinds of values

The class of every value, the classes of errors with what they belong to, the built-in names, and
when two values are the same value or the same key. All names of the built-in module have a value
here but those of `openNames`, which are objects of other kinds than the ones that are modelled.
-/

namespace LambdaText

open LambdaText.Code LambdaText.Function LambdaText.Number

def errorParents : List (String × String) :=
  [("BaseException", "object"), ("Exception", "BaseException"),
   ("GeneratorExit", "BaseException"), ("KeyboardInterrupt", "BaseException"),
   ("SystemExit", "BaseException"), ("ArithmeticError", "Exception"),
   ("FloatingPointError", "ArithmeticError"), ("OverflowError", "ArithmeticError"),
   ("ZeroDivisionError", "ArithmeticError"), ("AssertionError", "Exception"),
   ("AttributeError", "Exception"), ("BufferError", "Exception"), ("EOFError", "Exception"),
   ("ImportError", "Exception"), ("ModuleNotFoundError", "ImportError"),
   ("LookupError", "Exception"), ("IndexError", "LookupError"), ("KeyError", "LookupError"),
   ("MemoryError", "Exception"), ("NameError", "Exception"),
   ("UnboundLocalError", "NameError"), ("OSError", "Exception"),
   ("BlockingIOError", "OSError"), ("ChildProcessError", "OSError"),
   ("ConnectionError", "OSError"), ("BrokenPipeError", "ConnectionError"),
   ("ConnectionAbortedError", "ConnectionError"), ("ConnectionRefusedError", "ConnectionError"),
   ("ConnectionResetError", "ConnectionError"), ("FileExistsError", "OSError"),
   ("FileNotFoundError", "OSError"), ("InterruptedError", "OSError"),
   ("IsADirectoryError", "OSError"), ("NotADirectoryError", "OSError"),
   ("PermissionError", "OSError"), ("ProcessLookupError", "OSError"),
   ("TimeoutError", "OSError"), ("ReferenceError", "Exception"), ("RuntimeError", "Exception"),
   ("NotImplementedError", "RuntimeError"), ("RecursionError", "RuntimeError"),
   ("StopAsyncIteration", "Exception"), ("StopIteration", "Exception"),
   ("SyntaxError", "Exception"), ("IndentationError", "SyntaxError"),
   ("TabError", "IndentationError"), ("SystemError", "Exception"), ("TypeError", "Exception"),
   ("ValueError", "Exception"), ("UnicodeError", "ValueError"),
   ("UnicodeDecodeError", "UnicodeError"), ("UnicodeEncodeError", "UnicodeError"),
   ("UnicodeTranslateError", "UnicodeError"), ("Warning", "Exception"),
   ("BytesWarning", "Warning"), ("DeprecationWarning", "Warning"), ("EncodingWarning", "Warning"),
   ("FutureWarning", "Warning"), ("ImportWarning", "Warning"),
   ("PendingDeprecationWarning", "Warning"), ("ResourceWarning", "Warning"),
   ("RuntimeWarning", "Warning"), ("SyntaxWarning", "Warning"), ("UnicodeWarning", "Warning"),
   ("UserWarning", "Warning"), ("LambdaSyntaxError", "SyntaxError"),
   ("CoercionTypeError", "TypeError"), ("ValidationError", "ValueError")]

def libraryErrors : List String := ["LambdaSyntaxError", "CoercionTypeError", "ValidationError"]

def isErrorKind (kind : String) : Bool := (errorParents.lookup kind).isSome

/-- Whether a class of errors belongs to another one, within so many steps. -/
def belongsWithin : Nat → String → String → Bool
  | 0, _, _ => false
  | n + 1, kind, ancestor =>
    kind == ancestor || match errorParents.lookup kind with
      | some parent => belongsWithin n parent ancestor
      | none => false

def belongsTo (kind ancestor : String) : Bool :=
  ancestor == "object" || belongsWithin (errorParents.length + 1) kind ancestor ||
    (kind == "bool" && ancestor == "int")

/-- The classes that are built in, apart from those of errors. -/
def builtinKinds : List String :=
  ["bool", "bytearray", "bytes", "classmethod", "complex", "dict", "enumerate", "filter", "float",
   "frozenset", "int", "list", "map", "memoryview", "object", "property", "range", "reversed", "set",
   "slice", "staticmethod", "str", "super", "tuple", "type", "zip"]

def builtinFunctions : List String :=
  ["__build_class__", "__import__", "abs", "aiter", "all", "anext", "any", "ascii", "bin",
   "breakpoint", "callable", "chr", "compile", "delattr", "dir", "divmod", "eval", "exec", "format",
   "getattr", "globals", "hasattr", "hash", "hex", "id", "input", "isinstance", "issubclass", "iter",
   "len", "locals", "max", "min", "next", "oct", "open", "ord", "pow", "print", "repr", "round",
   "setattr", "sorted", "sum", "vars"]

def openNames : List String :=
  ["BaseExceptionGroup", "ExceptionGroup", "NotImplemented", "__doc__", "__loader__", "__spec__",
   "copyright", "credits", "exit", "help", "license", "quit"]

/-- The value of a name that is built in, unless it is left open. -/
def builtinValue? (name : String) : Option Value :=
  if builtinFunctions.contains name then some (.builtin name)
  else if builtinKinds.contains name ||
      (isErrorKind name && !libraryErrors.contains name) then some (.type name)
  else if name == "EnvironmentError" || name == "IOError" then some (.type "OSError")
  else if name == "Ellipsis" then some .ellipsis
  else if name == "__name__" then some (.text "builtins")
  else if name == "__package__" then some (.text "")
  else if name == lockedName then some (.bool true)
  else none

namespace Value

def kindName : Value → String
  | none => "NoneType"
  | bool _ => "bool"
  | int _ => "int"
  | float _ => "float"
  | complex _ _ => "complex"
  | text _ => "str"
  | bytes _ => "bytes"
  | ellipsis => "ellipsis"
  | hole => "Hole"
  | tuple _ => "tuple"
  | range _ _ _ => "range"
  | slice _ _ _ => "slice"
  | list _ => "list"
  | dict _ => "dict"
  | set _ => "set"
  | view kind _ => kind
  | iterator kind _ => kind
  | builtin _ => "builtin_function_or_method"
  | type _ => "type"
  | method _ _ => "method_descriptor"
  | bound receiver _ =>
    match receiver with
    | compiler _ | source _ _ => "method"
    | _ => "builtin_function_or_method"
  | function _ _ _ _ _ => "function"
  | compiled _ _ _ => "CompiledLambda"
  | curried _ _ => "CurriedCallable"
  | template _ _ => "PartialCallable"
  | combined _ _ => "function"
  | error kind _ _ => kind
  | source _ _ => "LambdaSource"
  | settings _ _ => "CompilerSettings"
  | compiler _ => "LambdaCompiler"
  | module _ => "module"

def isCallable : Value → Bool
  | builtin _ | type _ | method _ _ | bound _ _ | function _ _ _ _ _ | compiled _ _ _ => true
  | curried _ _ | template _ _ | combined _ _ => true
  | _ => false

mutual

/-- Whether two values are one object. Numbers, texts, bytes, rows, ranges, slices and views have no
identity here: they are one object if they hold the same. -/
def same : Value → Value → Bool
  | none, none | ellipsis, ellipsis | hole, hole => true
  | bool a, bool b => a == b
  | int a, int b => a == b
  | float a, float b => a.toBits == b.toBits
  | complex a b, complex c d => a.toBits == c.toBits && b.toBits == d.toBits
  | text a, text b => a == b
  | bytes a, bytes b => a == b
  | tuple a, tuple b => allSame a b
  | range a b c, range d e f => a == d && b == e && c == f
  | slice a b c, slice d e f => same a d && same b e && same c f
  | list a, list b | dict a, dict b | set a, set b => a == b
  | view k a, view l b => k == l && a == b
  | iterator _ a, iterator _ b => a == b
  | builtin a, builtin b | type a, type b | module a, module b => a == b
  | method a b, method c d => a == c && b == d
  | function a _ _ _ _, function b _ _ _ _ => a == b
  | compiled a _ _, compiled b _ _ | curried a _, curried b _ => a == b
  | template a _, template b _ | combined a _, combined b _ => a == b
  | source a _, source b _ | settings a _, settings b _ => a == b
  | compiler a, compiler b => a == b
  | error k a _, error l b _ => k == l && allSame a b
  | _, _ => false

def allSame : List Value → List Value → Bool
  | [], [] => true
  | a :: as, b :: bs => same a b && allSame as bs
  | _, _ => false

end

end Value

def Value.amount? : Value → Option Amount
  | .bool b => some (.int (if b then 1 else 0))
  | .int i => some (.int i)
  | .float x => some (.float x)
  | .complex re im => some (.complex re im)
  | _ => Option.none

namespace Value

mutual

def sameKey : Value → Value → Bool
  | tuple a, tuple b => allSameKey a b
  | a, b =>
    same a b || match a.amount?, b.amount? with
      | some m, some n => m.equal n
      | _, _ => false

def allSameKey : List Value → List Value → Bool
  | [], [] => true
  | a :: as, b :: bs => sameKey a b && allSameKey as bs
  | _, _ => false

end

mutual

/-- The class of the part of a value because of which it is no key, if there is one. -/
def unhashable? : Value → Option String
  | list _ => some "list"
  | dict _ => some "dict"
  | set _ => some "set"
  | slice _ _ _ => some "slice"
  | view kind _ => if kind == "dict_values" then Option.none else some kind
  | settings _ _ => some "CompilerSettings"
  | source _ _ => some "LambdaSource"
  | tuple items => anyUnhashable? items
  | _ => Option.none

/-- The class of the first item that is no key. -/
def anyUnhashable? : List Value → Option String
  | [] => Option.none
  | v :: rest => unhashable? v <|> anyUnhashable? rest

end

mutual

/-- A number that is the same for equal keys. -/
def residue : Value → Int
  | bool b => if b then 1 else 0
  | int i => (Amount.int i).residue
  | float x => (Amount.float x).residue
  | complex re im => (Amount.complex re im).residue
  | tuple items => rowResidue (residues items)
  | _ => 0

def residues : List Value → List Int
  | [] => []
  | v :: rest => residue v :: residues rest

end

def findKey (entries : Array (Value × Value)) (key : Value) : Option Nat :=
  entries.findIdx? fun (k, _) => sameKey k key

end Value

end LambdaText
