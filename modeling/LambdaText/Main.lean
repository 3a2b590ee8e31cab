import LambdaText.CommandLine.Basic

/-!
# The program

Runs the command on the words it was started with, in the environment it was started in.
-/

namespace LambdaText.CommandLine

def usage : String := "usage: strlambda [-h] [--show-params] [--debug] expression [args ...]"

def environmentVariables : IO (List (String × String)) := do
  let mut found := []
  for (suffix, _) in Settings.variableFields do
    let name := Settings.variablePrefix ++ suffix
    match ← IO.getEnv name with
    | some v => found := found ++ [(name, v)]
    | none => pure ()
  return found

def program (words : List String) : IO UInt32 := do
  let state : State := { environment := ← environmentVariables }
  match (run machine words).run.run state with
  | none => return 1
  | some (result, state) =>
    IO.print state.output
    match result with
    | .ok .help =>
      IO.println usage
      return 0
    | .ok .refused =>
      IO.eprintln usage
      return 2
    | .ok (.finished code complaint) =>
      match complaint with
      | some text => IO.eprintln text
      | none => pure ()
      return code.toUInt32
    | .error e =>
      match (messageOf e).run.run state with
      | some (.ok text, _) => IO.eprintln s!"{e.kindName}: {text}"
      | _ => IO.eprintln e.kindName
      return 1

end LambdaText.CommandLine

def main (words : List String) : IO UInt32 := LambdaText.CommandLine.program words
