/-!
# Faults

The errors that belong to the library itself, as causes. A fault of a text keeps the text that was
given. Its message has a line for what is wrong, one for the text, and one for the details if there
are any.
-/

namespace LambdaText

/-- A cause of failure. -/
inductive Fault where
  | notText
  | invalidParameter (name text : String)
  | repeatedParameter (name text : String)
  | emptyBody (text : String)
  | invalidBody (text : String)
  | invalidFunction (text : String)
  | invalidBlock (text : String)
  /-- A value is neither a text nor callable; its kind and its written form. -/
  | notCallable (kind shown : String)
  /-- A number of arguments is no natural number; its written form. -/
  | invalidCount (shown : String)
  deriving DecidableEq, Repr

namespace Fault

def expression? : Fault → Option String
  | invalidParameter _ text | repeatedParameter _ text => some text
  | emptyBody text | invalidBody text | invalidFunction text | invalidBlock text => some text
  | notText | notCallable _ _ | invalidCount _ => none

def hasDetails : Fault → Bool
  | invalidBody _ | invalidFunction _ | invalidBlock _ => true
  | _ => false

def summary : Fault → String
  | notText => "Input must be a string."
  | invalidParameter name _ => s!"Invalid parameter name '{name}'."
  | repeatedParameter name _ => s!"Duplicate parameter name '{name}'."
  | emptyBody _ => "Body is empty."
  | invalidBody _ => "Body is not a valid expression."
  | invalidFunction _ => "Text expression is not a valid function."
  | invalidBlock _ => "Statement block is not valid Python."
  | notCallable kind shown =>
    s!"Cannot coerce {kind} value {shown} to a callable. Use K(value) for a constant function."
  | invalidCount shown => s!"Argument count must be a non-negative integer, got {shown}"

def message (fault : Fault) : String :=
  match fault.expression? with
  | some text => s!"{fault.summary}\nInput: '{text}'"
  | none => fault.summary

/-- Stands for the details of a position, whose wording is not fixed. -/
def detailsMark : String := "<details>"

def detailedMessage (fault : Fault) : String :=
  if fault.hasDetails then s!"{fault.message}\nDetails: {detailsMark}" else fault.message

end Fault

end LambdaText
