import LambdaText.Fault
import LambdaText.Log.Basic
import LambdaText.Text.Quoted

/-!
# What is logged

The names of the logs, and the record that goes with every fault.
-/

namespace LambdaText.Log

open LambdaText.Text

def packageName : String := "strlambda"

def freeNamesLog : String := "strlambda.lambda_parser.scanner"

def readingLog : String := "strlambda.lambda_parser.lambda_parser"

def compilerLog : String := "strlambda.lambda_compiler.lambda_compiler"

def compiledLog : String := "strlambda.lambda_compiler.compiled_lambda"

def coercionLog : String := "strlambda.coercion.coercion"

def partialLog : String := "strlambda.partial.partial_application"

def settingsLog : String := "strlambda.config.settings"

def commandLog : String := "strlambda.cli"

def textList (texts : List String) : String := "[" ++ ", ".intercalate (texts.map quote) ++ "]"

end LambdaText.Log

namespace LambdaText

open LambdaText.Log LambdaText.Text

def Fault.kind : Fault → String
  | notText => "TypeError"
  | notCallable _ _ => "CoercionTypeError"
  | invalidCount _ => "ValueError"
  | _ => "LambdaSyntaxError"

/-- What is logged about a value that is neither a text nor callable. -/
def refusalMessage (kind : String) : String := s!"as_callable: unsupported value of type {kind}"

def Fault.record? : Fault → Option Record
  | notText => none
  | invalidParameter name text =>
    some ⟨readingLog, .error, s!"Invalid parameter name '{name}' in '{text}'"⟩
  | repeatedParameter name text =>
    some ⟨readingLog, .error, s!"Duplicate parameter name '{name}' in '{text}'"⟩
  | emptyBody text => some ⟨compilerLog, .error, s!"Empty body in '{text}'"⟩
  | invalidBody text =>
    some ⟨compilerLog, .error, s!"Body of '{text}' is not a valid expression: {Fault.detailsMark}"⟩
  | invalidFunction text =>
    some ⟨compilerLog, .error, s!"Could not compile '{text}': {Fault.detailsMark}"⟩
  | invalidBlock text =>
    some ⟨compilerLog, .error,
      s!"Statement block is not valid Python: {quote text}: {Fault.detailsMark}"⟩
  | notCallable kind _ =>
    some ⟨coercionLog, .error, refusalMessage kind⟩
  | invalidCount shown =>
    some ⟨partialLog, .error, s!"Invalid argument count for ncurry: {shown}"⟩

end LambdaText
