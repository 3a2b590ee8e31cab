import LambdaText.CommandLine.Options
import LambdaText.Datum.Literal
import LambdaText.Eval.Levels
import LambdaText.Value.Datum

/-!
# The command

Compiles the text of a command line and prints either its parameters or what it gives for the
arguments, which are read as literals where they are literals. Faults of texts and of coercion are
told; any other error is left to the caller.
-/

namespace LambdaText.CommandLine

open LambdaText.Log

/-- How the command ends. -/
inductive Outcome where
  | help
  | refused
  /-- With an exit code and, if something is to be told, a complaint. -/
  | finished (code : Nat) (complaint : Option String)

def printLine (line : String) : Run Unit :=
  modify fun s => { s with output := s.output ++ line ++ "\n" }

def readArgument (text : String) : Run Value := do
  match Datum.ofArgument text with
  | .ok d => d.value
  | .error (.badKey kind) => Run.raise "TypeError" s!"unhashable type: '{kind}'"
  | .error .oversized => Run.raise "OverflowError" "int too large to convert to float"
  | .error .malformed => return .text text

def parametersOf : Value → List String
  | .compiled _ s _ => s.parameters
  | _ => []

def fulfil (m : Machine) (r : Request) : Run Unit := do
  let f ← asCallable m (.text r.expression) .none
  if r.showParameters then printLine (commaList (parametersOf f))
  else
    let values ← r.arguments.mapM readArgument
    let written ← values.mapM shown
    Run.log commandLog .debug s!"Calling {← shown f} with [{commaList written}]"
    printLine (← shown (← m.call f values []))

/-- Whether an error is told instead of being left to the caller. -/
def isTold (error : Value) : Bool :=
  belongsTo error.kindName "LambdaSyntaxError" || belongsTo error.kindName "CoercionTypeError"

/-- What is told about an error. The classes of errors that are told make their messages
themselves, and make texts of them. -/
def complaintAbout : Value → String
  | .error _ [.text message] _ => s!"Error: {message}"
  | _ => "Error: "

def run (m : Machine) (words : List String) : Run Outcome := do
  match read words with
  | .help => return .help
  | .refused => return .refused
  | .request r =>
    let _ ← environmentSettings
    tryCatch
      (do
        fulfil m r
        return .finished 0 none)
      fun error => do
        if isTold error then return .finished 1 (some (complaintAbout error))
        else throw error

end LambdaText.CommandLine
