import LambdaText.Code.Numeral

/-!
# Syntax of bodies and blocks

Expressions and statements. Targets of assignments, loops and deletions are expressions that
`Expr.isTarget` accepts. A parameter list is one list in which every parameter knows its kind.
-/

namespace LambdaText.Code

/-- A literal. -/
inductive Constant where
  | none
  | bool (b : Bool)
  | ellipsis
  | number (n : Numeral)
  | text (s : String)
  /-- A text by its code points, of which some are surrogates and so no characters. -/
  | points (points : List Nat)
  | bytes (b : List UInt8)

def isSurrogate (n : Nat) : Bool := decide (0xD800 ≤ n ∧ n ≤ 0xDFFF)

def Constant.ofPoints (points : List Nat) : Constant :=
  if points.any isSurrogate then .points points
  else .text (String.ofList (points.map Char.ofNat))

/-- A sign or word before one operand. -/
inductive UnaryOp where
  | negate
  | plus
  | invert
  | not
  deriving DecidableEq

/-- A sign between two operands. -/
inductive BinaryOp where
  | add
  | subtract
  | multiply
  | divide
  | floorDivide
  | remainder
  | power
  | matrixMultiply
  | shiftLeft
  | shiftRight
  | bitAnd
  | bitOr
  | bitXor
  deriving DecidableEq

inductive CompareOp where
  | eq
  | ne
  | lt
  | le
  | gt
  | ge
  | is
  | isNot
  | isIn
  | notIn
  deriving DecidableEq

/-- How the value of a field in a text is written. -/
inductive Conversion where
  | plain
  | str
  | repr
  | ascii
  deriving DecidableEq

inductive Comprehended where
  | list
  | set
  | dict
  | generator
  deriving DecidableEq

/-- How a parameter takes its argument. -/
inductive ParameterKind where
  | positionalOnly
  | standard
  | variadic
  | keywordOnly
  | keywords
  deriving DecidableEq

mutual

inductive Expr where
  | constant (c : Constant)
  | name (n : String)
  | template (pieces : List Piece)
  | tuple (items : List Expr)
  | list (items : List Expr)
  | set (items : List Expr)
  | dict (entries : List Entry)
  | unary (op : UnaryOp) (operand : Expr)
  | binary (op : BinaryOp) (left right : Expr)
  | connective (conjunction : Bool) (operands : List Expr)
  | comparison (first : Expr) (rest : List Comparand)
  | conditional (test yes no : Expr)
  | attribute (object : Expr) (name : String)
  | subscript (object index : Expr)
  | slice (first last step : Option Expr)
  | call (function : Expr) (arguments : List Argument)
  | lambda (parameters : List Parameter) (body : Expr)
  | comprehension (kind : Comprehended) (item : Expr) (value : Option Expr)
      (clauses : List Clause)
  | assignment (name : String) (value : Expr)
  | star (operand : Expr)
  | await (operand : Expr)
  | yield (operand : Option Expr)
  | yieldFrom (operand : Expr)

/-- One further operand of a chained comparison. -/
inductive Comparand where
  | mk (op : CompareOp) (operand : Expr)

/-- A part of a text with fields. -/
inductive Piece where
  | text (s : String)
  | field (value : Expr) (conversion : Conversion) (format : List Piece)

/-- An entry of a dictionary display. -/
inductive Entry where
  | pair (key value : Expr)
  | spread (mapping : Expr)

inductive Argument where
  | positional (value : Expr)
  | star (sequence : Expr)
  | keyword (name : String) (value : Expr)
  | spread (mapping : Expr)

inductive Parameter where
  | mk (name : String) (kind : ParameterKind) (default : Option Expr)

inductive Clause where
  | loop (target sequence : Expr) (isAsync : Bool)
  | condition (test : Expr)

end

def Parameter.name : Parameter → String
  | .mk n _ _ => n

def Parameter.kind : Parameter → ParameterKind
  | .mk _ k _ => k

def Parameter.default? : Parameter → Option Expr
  | .mk _ _ d => d

def Parameter.plain (name : String) : Parameter := .mk name .standard none

mutual

/-- A statement. -/
inductive Stmt where
  | expression (value : Expr)
  | assign (targets : List Expr) (value : Expr)
  | augment (target : Expr) (op : BinaryOp) (value : Expr)
  /-- An annotated name, with or without a value; `simple` if the target is a bare name. -/
  | annotate (target hint : Expr) (value : Option Expr) (simple : Bool)
  | conditional (test : Expr) (yes no : List Stmt)
  | whileLoop (test : Expr) (body otherwise : List Stmt)
  | forLoop (target sequence : Expr) (body otherwise : List Stmt)
  | attempt (body : List Stmt) (handlers : List Handler) (otherwise final : List Stmt)
  | define (name : String) (parameters : List Parameter) (hints : List Expr)
      (body : List Stmt)
  | give (value : Option Expr)
  | raise (value cause : Option Expr)
  | assert (test : Expr) (message : Option Expr)
  | delete (targets : List Expr)
  | globalNames (names : List String)
  | outerNames (names : List String)
  | leave
  | next
  | pass

/-- A handler of raised errors. -/
inductive Handler where
  | mk (kind : Option Expr) (name : Option String) (body : List Stmt)

end

/-- The target of an assignment: a name, a part of an object, or targets in a row. -/
def Expr.isTarget : Expr → Bool
  | .name _ => true
  | .attribute _ _ => true
  | .subscript _ _ => true
  | .tuple items => items.attach.all fun ⟨e, _⟩ => e.isTarget
  | .list items => items.attach.all fun ⟨e, _⟩ => e.isTarget
  | .star e => e.isTarget
  | _ => false

def Expr.isSingleTarget : Expr → Bool
  | .name _ => true
  | .attribute _ _ => true
  | .subscript _ _ => true
  | _ => false

end LambdaText.Code
