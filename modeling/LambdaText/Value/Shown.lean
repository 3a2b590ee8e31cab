import LambdaText.Code.Numeral
import LambdaText.Number.Shortest
import LambdaText.Text.Quoted
import LambdaText.Value.Kind
import LambdaText.Value.Run

/-!
# Written forms of values

The form in which a value can be told from others, and the plain form, which shows a text as it is.
A container that holds itself is written as dots.
-/

namespace LambdaText

open LambdaText.Code LambdaText.Function LambdaText.Number LambdaText.Text

/-- The written form of an integer, which has a bound on its digits. -/
def integerText (i : Int) : Run String := do
  let text := toString i
  if maxDecimalDigits < text.length && maxDecimalDigits < (toString i.natAbs).length then
    Run.raise "ValueError"
      "Exceeds the limit (4300 digits) for integer string conversion; use sys.set_int_max_str_digits() to increase the limit"
  else return text

def floatString (x : Float) : String := String.ofList (floatText x)

/-- The written form of a float that is a part of a complex number. -/
def partText (x : Float) : String :=
  let text := floatString x
  if text.endsWith ".0" then (text.dropEnd 2).toString else text

def complexText (re im : Float) : String :=
  if re == 0 && !signBitSet re then partText im ++ "j"
  else
    let sign := if (partText im).startsWith "-" then "" else "+"
    "(" ++ partText re ++ sign ++ partText im ++ "j)"

def commaList (texts : List String) : String := ", ".intercalate texts

def tupleText (items : List String) : String :=
  match items with
  | [only] => "(" ++ only ++ ",)"
  | _ => "(" ++ commaList items ++ ")"

def libraryModules : List (String × String) :=
  [("CompiledLambda", "strlambda.lambda_compiler.compiled_lambda"),
   ("LambdaCompiler", "strlambda.lambda_compiler.lambda_compiler"),
   ("CurriedCallable", "strlambda.partial.partial_application"),
   ("PartialCallable", "strlambda.partial.partial_application"),
   ("Hole", "strlambda.partial.partial_application"),
   ("LambdaSource", "strlambda.system.models"),
   ("CompilerSettings", "strlambda.config.settings"),
   ("LambdaSyntaxError", "strlambda.system.errors"),
   ("CoercionTypeError", "strlambda.system.errors"),
   ("ValidationError", "pydantic_core._pydantic_core")]

def kindText (name : String) : String :=
  match libraryModules.lookup name with
  | some place => s!"<class '{place}.{name}'>"
  | none => s!"<class '{name}'>"

def sourceText : Source → String
  | .last text form parameters body =>
    "LambdaSource(text=" ++ quote text ++ ", form=<LambdaForm." ++ form.name.toUpper ++ ": " ++
      quote form.name ++ ">, params=[" ++ commaList (parameters.map quote) ++ "], body=" ++
      quote body ++ ", inner=None)"
  | .stage text form parameters inner =>
    "LambdaSource(text=" ++ quote text ++ ", form=<LambdaForm." ++ form.name.toUpper ++ ": " ++
      quote form.name ++ ">, params=[" ++ commaList (parameters.map quote) ++
      "], body=None, inner=" ++ sourceText inner ++ ")"

def settingsText (s : Settings) : String :=
  "CompilerSettings(section_param_prefix=" ++ quote s.operandName ++ ", self_keyword=" ++
    quote s.receiver ++ ", cache_size=" ++ toString s.cacheSize ++ ", log_level=" ++
    quote s.logLevel.name ++ ")"

def pathName (path : String) : String :=
  if path.endsWith ".<locals>." then (path.dropEnd ".<locals>.".length).toString
  else (path.dropEnd 1).toString

def compiledText (s : Source) : String :=
  "<CompiledLambda form=" ++ s.form.name ++ " params=(" ++ commaList s.parameters ++ ") text=" ++
    quote s.text ++ ">"

def truth (v : Value) : Run Bool := do
  match v with
  | .none => return false
  | .bool b => return b
  | .int i => return i != 0
  | .float x => return !(x == 0)
  | .complex re im => return !(re == 0 && im == 0)
  | .text s => return s != ""
  | .bytes b => return !b.isEmpty
  | .tuple items => return !items.isEmpty
  | .range first last step =>
    return if 0 < step then decide (first < last) else decide (last < first)
  | .list a => return !(← Run.listItems a).isEmpty
  | .dict a => return !(← Run.dictEntries a).isEmpty
  | .set a => return !(← Run.setItems a).isEmpty
  | .view _ a => return !(← Run.dictEntries a).isEmpty
  | _ => return true

/-- The start of the name of a curried function, from its side and whether it counts. -/
def curryName (right counted : Bool) : String :=
  (if right then "r" else "") ++ (if counted then "n" else "") ++ "curry"

/-- The written form of a value, with a bound on its depth. Cells in `active` are being written. -/
def shownWithin : Nat → List Nat → Value → Run String
  | 0, _, _ => Run.raise "RecursionError" "maximum recursion depth exceeded"
  | n + 1, active, v => do
    let all := fun (active : List Nat) (items : List Value) => items.mapM (shownWithin n active)
    match v with
    | .none => return "None"
    | .bool b => return if b then "True" else "False"
    | .int i => integerText i
    | .float x => return floatString x
    | .complex re im => return complexText re im
    | .text s => return quote s
    | .bytes b => return String.ofList (quotedBytes b)
    | .ellipsis => return "Ellipsis"
    | .hole => return "_"
    | .tuple items => return tupleText (← all active items)
    | .range first last step =>
      return if step = 1 then s!"range({first}, {last})" else s!"range({first}, {last}, {step})"
    | .slice a b c => return "slice" ++ tupleText (← all active [a, b, c])
    | .list a =>
      if active.contains a then return "[...]"
      return "[" ++ commaList (← all (a :: active) (← Run.listItems a).toList) ++ "]"
    | .dict a =>
      if active.contains a then return "\x7b...\x7d"
      let entries ← (← Run.dictEntries a).toList.mapM fun (k, e) => do
        return (← shownWithin n (a :: active) k) ++ ": " ++ (← shownWithin n (a :: active) e)
      return "\x7b" ++ commaList entries ++ "\x7d"
    | .set a =>
      let items := (← Run.setItems a).toList
      if items.isEmpty then return "set()"
      return "\x7b" ++ commaList (← all (a :: active) items) ++ "\x7d"
    | .view kind a =>
      let entries := (← Run.dictEntries a).toList
      let items := match kind with
        | "dict_keys" => entries.map Prod.fst
        | "dict_values" => entries.map Prod.snd
        | _ => entries.map fun (k, e) => Value.tuple [k, e]
      return kind ++ "([" ++ commaList (← all active items) ++ "])"
    | .iterator kind a =>
      match ← Run.cell a with
      | .iterator (.comprehension scope _ _ _ _) =>
        return "<" ++ kind ++ " object " ++ pathName scope.path ++ ">"
      | .iterator (.routine scope _) =>
        return "<" ++ kind ++ " object " ++ pathName scope.path ++ ">"
      | _ => return "<" ++ kind ++ " object>"
    | .builtin name => return "<built-in function " ++ name ++ ">"
    | .type name => return kindText name
    | .method owner name => return "<method '" ++ name ++ "' of '" ++ owner ++ "' objects>"
    | .bound receiver name =>
      return "<built-in method " ++ name ++ " of " ++ receiver.kindName ++ " object>"
    | .function _ _ _ name _ => return "<function " ++ name ++ ">"
    | .compiled _ source _ => return compiledText source
    | .curried _ c =>
      let right ← truth c.right
      return "<" ++ curryName right c.count.isSome ++ " " ++ (← shownWithin n active c.function) ++
        " args=" ++ tupleText (← all active c.held) ++ ">"
    | .template _ t =>
      return "<partial " ++ (← shownWithin n active t.function) ++ " template=" ++
        tupleText (← all active t.items) ++ ">"
    | .combined _ c => return "<function " ++ c.name ++ ">"
    | .error kind arguments _ =>
      return kind ++ "(" ++ commaList (← all active arguments) ++ ")"
    | .source _ s => return sourceText s
    | .settings _ s => return settingsText s
    | .compiler _ => return "<strlambda.lambda_compiler.lambda_compiler.LambdaCompiler object>"
    | .module name => return "<module '" ++ name ++ "' (built-in)>"

def maxValueDepth : Nat := 900

def shown (v : Value) : Run String := shownWithin maxValueDepth [] v

def plain (v : Value) : Run String := do
  match v with
  | .text s => return s
  | .error kind arguments _ =>
    match arguments with
    | [] => return ""
    | [a] =>
      if belongsTo kind "KeyError" then shown a
      else match a with
        | .text s => return s
        | _ => shown a
    | _ => shown (.tuple arguments)
  | _ => shown v

def messageOf (error : Value) : Run String := plain error

end LambdaText
