import LambdaText.Datum.Validation
import LambdaText.Log.Basic
import LambdaText.Text.Case
import LambdaText.Text.Identifier

/-!
# Settings

The choices of a compiler: how lacking operands are named, the word for the receiver, how many
compiled texts are kept, and how much is logged. Settings are read from fields, or from variables
whose names start with one prefix.
-/

namespace LambdaText

open LambdaText.Text

/-- The choices of a compiler. -/
structure Settings where
  operandName : String := "_arg"
  receiver : String := "self"
  cacheSize : Nat := 0
  logLevel : Log.Level := .warning
  deriving DecidableEq, Repr

namespace Settings

def checkIdentifier (name : String) : Checked String :=
  if isIdentifier name.toList then .ok name
  else .fail (.rule s!"'{name}' is not a valid identifier")

/-- The level that a text names, in small or capital letters. -/
def checkLevel (name : String) : Checked Log.Level :=
  match Log.Level.ofName? (String.ofList (toUpper name.toList)) with
  | some level => .ok level
  | none => .fail (.rule s!"Unknown log level '{name}'")

def checkField {α : Type} (fields : String → Option Datum) (name : String)
    (check : Datum → Checked α) (default : α) : Checked α :=
  match fields name with
  | none => .ok default
  | some d => (check d).at name

/-- Settings from fields; a field that is absent keeps its default. -/
def ofFields (fields : String → Option Datum) : Checked Settings :=
  let operandName := checkField fields "section_param_prefix"
    (fun d => d.asText >>= checkIdentifier) "_arg"
  let receiver := checkField fields "self_keyword" (fun d => d.asText >>= checkIdentifier) "self"
  let cacheSize := checkField fields "cache_size" Datum.asNatural 0
  let logLevel := checkField fields "log_level" (fun d => d.asText >>= checkLevel) .warning
  match operandName, receiver, cacheSize, logLevel with
  | .ok operandName, .ok receiver, .ok cacheSize, .ok logLevel =>
    .ok { operandName, receiver, cacheSize, logLevel }
  | _, _, _, _ =>
    .error (operandName.issues ++ receiver.issues ++ cacheSize.issues ++ logLevel.issues)

def variablePrefix : String := "STRLAMBDA_"

def variableFields : List (String × String) :=
  [("SECTION_PREFIX", "section_param_prefix"), ("SELF_KEYWORD", "self_keyword"),
   ("CACHE_SIZE", "cache_size"), ("LOG_LEVEL", "log_level")]

def counts : Datum → Bool
  | .none => false
  | .text s => s != ""
  | _ => true

def overrides (variableOf : String → Option Datum) : List (String × Datum) :=
  variableFields.filterMap fun (suffix, field) =>
    ((variableOf (variablePrefix ++ suffix)).filter counts).map fun d => (field, d)

def ofVariables (variableOf : String → Option Datum) : Checked Settings :=
  ofFields fun name => (overrides variableOf).lookup name

end Settings

end LambdaText
