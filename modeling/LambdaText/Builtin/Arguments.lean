import LambdaText.Value.Item

/-!
# Arguments of built-in functions

Counting positions, refusing keywords, and sharing both out among named parameters.
-/

namespace LambdaText

abbrev Keywords := List (String × Value)

def noKeywords (name : String) (keywords : Keywords) : Run Unit := do
  if !keywords.isEmpty then
    Run.raise "TypeError" s!"{name}() takes no keyword arguments"

/-- Fails unless there are so many positions and no keywords. -/
def demandCount (name : String) (least most : Nat) (positions : List Value)
    (keywords : Keywords) : Run Unit := do
  noKeywords name keywords
  if positions.length < least || most < positions.length then
    Run.raise "TypeError"
      s!"{name} expected {least} to {most} arguments, got {positions.length}"

/-- Whether arguments name no encoding but UTF-8. -/
def utf8Named : List Value → Bool
  | [] | [.text "utf-8"] | [.text "utf8"] => true
  | _ => false

/-- Shares arguments out among parameters, of which the first `closed` take positions only and the
first `required` have to be given. -/
def shareArguments (name : String) (parameters : List String) (closed required : Nat)
    (positions : List Value) (keywords : Keywords) : Run (List (Option Value)) := do
  if parameters.length < positions.length then
    Run.raise "TypeError"
      s!"{name}() takes at most {parameters.length} arguments ({positions.length} given)"
  let taken := parameters.take positions.length
  let open_ := parameters.drop closed
  match keywords.find? fun k => !open_.contains k.1 with
  | some (k, _) =>
    Run.raise "TypeError" s!"'{k}' is an invalid keyword argument for {name}()"
  | none => pure ()
  match keywords.find? fun k => taken.contains k.1 with
  | some (k, _) =>
    Run.raise "TypeError" s!"argument for {name}() given by name ('{k}') and position"
  | none => pure ()
  let values := parameters.zipIdx.map fun (p, i) => positions[i]? <|> keywords.lookup p
  if (values.take required).any Option.isNone then
    Run.raise "TypeError" s!"{name}() missing required argument"
  else return values

def demandIndex (v : Value) : Run Int := do
  match v.index? with
  | some i => return i
  | none =>
    Run.raise "TypeError" s!"'{v.kindName}' object cannot be interpreted as an integer"

def demandText (what : String) (v : Value) : Run (List Char) := do
  match v with
  | .text s => return s.toList
  | _ => Run.raise "TypeError" s!"{what} must be str, not {v.kindName}"

end LambdaText
