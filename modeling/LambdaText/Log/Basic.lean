/-!
# Log records

A record has the name of the log it belongs to, a level and a message. A log counts its records in
the order in which they were made.
-/

namespace LambdaText.Log

/-- How much a record matters. -/
inductive Level where
  | debug
  | info
  | warning
  | error
  | critical
  deriving DecidableEq, Repr

def Level.all : List Level := [.debug, .info, .warning, .error, .critical]

def Level.name : Level → String
  | .debug => "DEBUG"
  | .info => "INFO"
  | .warning => "WARNING"
  | .error => "ERROR"
  | .critical => "CRITICAL"

def Level.ofName? (name : String) : Option Level := Level.all.find? fun level => level.name == name

def Level.rank : Level → Nat
  | .debug => 10
  | .info => 20
  | .warning => 30
  | .error => 40
  | .critical => 50

/-- One entry of a log. -/
structure Record where
  source : String
  level : Level
  message : String
  deriving DecidableEq, Repr

end LambdaText.Log
