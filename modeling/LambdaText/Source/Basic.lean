/-!
# Sources

What a text was read as: a form, parameters, and a body. A chained text has one stage per parameter
list; only the last stage has a body.
-/

namespace LambdaText

/-- The grammar a text was recognized as. -/
inductive Form where
  | arrow
  | underscore
  | openEnded
  | implicit
  | statement
  deriving DecidableEq, Repr

def Form.all : List Form := [.arrow, .underscore, .openEnded, .implicit, .statement]

def Form.name : Form → String
  | .arrow => "arrow"
  | .underscore => "underscore"
  | .openEnded => "section"
  | .implicit => "implicit"
  | .statement => "statement"

def Form.ofName? (name : String) : Option Form := Form.all.find? fun form => form.name == name

/-- The parameters and the body that a text stands for. -/
inductive Source where
  | last (text : String) (form : Form) (parameters : List String) (body : String)
  | stage (text : String) (form : Form) (parameters : List String) (inner : Source)
  deriving DecidableEq, Repr

namespace Source

def text : Source → String
  | last text _ _ _ => text
  | stage text _ _ _ => text

def form : Source → Form
  | last _ form _ _ => form
  | stage _ form _ _ => form

def parameters : Source → List String
  | last _ _ parameters _ => parameters
  | stage _ _ parameters _ => parameters

def body? : Source → Option String
  | last _ _ _ body => some body
  | stage _ _ _ _ => none

def inner? : Source → Option Source
  | last _ _ _ _ => none
  | stage _ _ _ inner => some inner

def depth : Source → Nat
  | last _ _ _ _ => 1
  | stage _ _ _ inner => 1 + inner.depth

def finalBody : Source → String
  | last _ _ _ body => body
  | stage _ _ _ inner => inner.finalBody

def finalText : Source → String
  | last text _ _ _ => text
  | stage _ _ _ inner => inner.finalText

def parameterLists : Source → List (List String)
  | last _ _ parameters _ => [parameters]
  | stage _ _ parameters inner => parameters :: inner.parameterLists

end Source

end LambdaText
