import LambdaText.Builtin.Attribute

/-!
# Built-in functions

The functions that compute values. Those that act on the surroundings, run texts as code or give out
addresses (`open`, `input`, `eval`, `exec`, `compile`, `id` and the like) are left open when they are
called; `dir` and `globals` without arguments are part of calls from a scope.
-/

namespace LambdaText

open LambdaText.Code LambdaText.Number LambdaText.Text

variable (m : Machine)

def lengthOf (v : Value) : Run Nat := do
  match v with
  | .text s => return s.length
  | .bytes b => return b.length
  | .tuple items => return items.length
  | .list a => return (← Run.listItems a).size
  | .dict a | .view _ a => return (← Run.dictEntries a).size
  | .set a => return (← Run.setItems a).size
  | .range a b c => return rangeLength a b c
  | _ => Run.raise "TypeError" s!"object of type '{v.kindName}' has no len()"

def absolute (v : Value) : Run Value := do
  match v.amount? with
  | some (.int i) => return .int i.natAbs
  | some (.float x) => return .float x.abs
  | some (.complex re im) => return .float (ComplexFloat.length ⟨re, im⟩)
  | none => Run.raise "TypeError" s!"bad operand type for abs(): '{v.kindName}'"

/-- Whether some item of a value counts as true, or all items do. -/
def quantify (all : Bool) (v : Value) : Run Value := do
  foldItems m (← iterator v)
    (fun _ item => do
      if (← truth item) != all then return .inr (.bool !all) else return .inl ())
    (fun _ => return .bool all) ()

def quotientRemainder (a b : Value) : Run Value := do
  match a.amount?, b.amount? with
  | some (.complex _ _), _ | _, some (.complex _ _) | none, _ | _, none =>
    Run.raise "TypeError"
      s!"unsupported operand type(s) for divmod(): '{a.kindName}' and '{b.kindName}'"
  | some (.int i), some (.int j) =>
    if j = 0 then divisionByZero "integer division or modulo by zero"
    else return .tuple [.int (Int.fdiv i j), .int (Int.fmod i j)]
  | some x, some y =>
    let x ← x.toFloat
    let y ← y.toFloat
    if y == 0 then divisionByZero "float divmod()"
    else
      let (q, r) := floorDivMod x y
      return .tuple [.float q, .float r]

/-- The best of keyed values: a later one counts only if it is strictly better. -/
def bestOf (op : CompareOp) (key : Value) : Option (Value × Value) → List Value →
    Run (Option Value)
  | best, [] => return best.map Prod.snd
  | best, v :: rest => do
    let k ← match key with
      | .none => pure v
      | key => m.call key [v] []
    match best with
    | none => bestOf op key (some (k, v)) rest
    | some (b, _) =>
      if ← ordered op k b then bestOf op key (some (k, v)) rest else bestOf op key best rest

def extreme (name : String) (op : CompareOp) (positions : List Value) (keywords : Keywords) :
    Run Value := do
  match positions with
  | [] => Run.raise "TypeError" s!"{name} expected at least 1 argument, got 0"
  | _ =>
    match ← shareArguments name ["key", "default"] 0 0 [] keywords with
    | [key, default] =>
      let items ← match positions with
        | [v] => itemsOf m v
        | many =>
          if default.isSome then
            Run.raise "TypeError"
              s!"Cannot specify a default for {name}() with multiple positional arguments"
          pure many
      match ← bestOf m op (key.getD .none) none items, default with
      | some v, _ => return v
      | none, some v => return v
      | none, none => Run.raise "ValueError" s!"{name}() arg is an empty sequence"
    | _ => return .none

def sumOf (v start : Value) : Run Value := do
  match start with
  | .text _ => Run.raise "TypeError" "sum() can't sum strings [use ''.join(seq) instead]"
  | .bytes _ => Run.raise "TypeError" "sum() can't sum bytes [use b''.join(seq) instead]"
  | _ =>
    foldItems m (← iterator v) (fun total item => return .inl (← operate .add total item)) pure
      start

def basedText (mark : String) (base : Nat) (v : Value) : Run Value := do
  return .text (inBase mark base (← demandIndex v))

def powerOf (a b : Value) (modulus : Option Value) : Run Value := do
  match modulus with
  | none | some .none => operate .power a b
  | some c =>
    match a.index?, b.index?, c.index? with
    | some i, some j, some k => powerModulo i j k
    | _, _, _ =>
      Run.raise "TypeError"
        "pow() 3rd argument not allowed unless all arguments are integers"

def isOfKind (v : Value) (kind : String) : Bool :=
  belongsTo v.kindName kind || (kind == "type" && v.kindName == "type")

/-- Whether a class, or one of a row of classes, satisfies a test, within so many rows. -/
def anyKind (what : String) (test : String → Bool) : Nat → Value → Run Bool
  | 0, _ => Run.raise "RecursionError" "maximum recursion depth exceeded"
  | n + 1, v => do
    match v with
    | .type kind => return test kind
    | .tuple items => items.anyM (anyKind what test n)
    | _ =>
      Run.raise "TypeError"
        s!"{what}() arg 2 must be a type, a tuple of types, or a union"

def printValues (positions : List Value) (separator ending : Option Value) : Run Value := do
  let mark := fun (v : Option Value) (default : String) => do
    match v with
    | none | some .none => return default
    | some (.text s) => return s
    | some v =>
      Run.raise "TypeError" s!"sep must be None or a string, not {v.kindName}"
  let separator ← mark separator " "
  let ending ← mark ending "\n"
  let texts ← positions.mapM plain
  modify fun s => { s with output := s.output ++ separator.intercalate texts ++ ending }
  return .none

def nextOf (it : Value) (default : Option Value) : Run Value := do
  match it with
  | .iterator _ _ =>
    match ← next? m it, default with
    | some v, _ => return v
    | none, some v => return v
    | none, none => throw (.error "StopIteration" [] none)
  | _ => Run.raise "TypeError" s!"'{it.kindName}' object is not an iterator"

/-- The hash of a number. That of other values is left open. -/
def hashOf (v : Value) : Run Value := do
  demandKey v
  if v.amount?.isSome then return .int v.residue else Run.leaveOpen

/-- Calls a built-in function. The functions that are not named here are left open. -/
def callBuiltin (name : String) (positions : List Value) (keywords : Keywords) : Run Value := do
  let a := positions.headD .none
  let b := positions[1]?.getD .none
  let count := fun (least most : Nat) => demandCount name least most positions keywords
  match name with
  | "abs" => count 1 1; absolute a
  | "all" => count 1 1; quantify m true a
  | "any" => count 1 1; quantify m false a
  | "ascii" => count 1 1; return .text (asciiForm (← shown a))
  | "bin" => count 1 1; basedText "0b" 2 a
  | "callable" => count 1 1; return .bool a.isCallable
  | "chr" =>
    count 1 1
    let i ← demandIndex a
    if isSurrogate i.toNat then Run.leaveOpen
    else if 0 ≤ i ∧ i < 0x110000 then return .ofChars [Char.ofNat i.toNat]
    else if -(Nat.pow 2 31) ≤ i ∧ i < Nat.pow 2 31 then
      Run.raise "ValueError" "chr() arg not in range(0x110000)"
    else Run.raise "OverflowError" "Python int too large to convert to C int"
  | "divmod" => count 2 2; quotientRemainder a b
  | "format" =>
    count 1 2
    match positions[1]? with
    | none => return .text (← formatValue a "")
    | some (Value.text f) => return .text (← formatValue a f)
    | some v =>
      Run.raise "TypeError" s!"format() argument 2 must be str, not {v.kindName}"
  | "getattr" | "hasattr" =>
    count 2 (if name == "getattr" then 3 else 2)
    match b with
    | .text n =>
      if name == "hasattr" then return .bool (← attribute? a n).isSome
      else match ← attribute? a n, positions[2]? with
        | some v, _ => return v
        | none, some v => return v
        | none, none => attributeOf a n
    | _ => Run.raise "TypeError" s!"attribute name must be string, not '{b.kindName}'"
  | "hash" => count 1 1; hashOf a
  | "hex" => count 1 1; basedText "0x" 16 a
  | "isinstance" => count 2 2; return .bool (← anyKind name (isOfKind a) 100 b)
  | "issubclass" =>
    count 2 2
    match a with
    | .type kind => return .bool (← anyKind name (belongsTo kind) 100 b)
    | _ => Run.raise "TypeError" "issubclass() arg 1 must be a class"
  | "iter" =>
    count 1 2
    match positions[1]? with
    | some stop =>
      if a.isCallable then Run.newIterator "callable_iterator" (.calls a stop)
      else Run.raise "TypeError" "iter(v, w): v must be callable"
    | none => iterator a
  | "len" => count 1 1; return .int (← lengthOf a)
  | "max" => extreme m name .gt positions keywords
  | "min" => extreme m name .lt positions keywords
  | "next" => count 1 2; nextOf m a positions[1]?
  | "oct" => count 1 1; basedText "0o" 8 a
  | "ord" =>
    count 1 1
    match a with
    | .text s =>
      match s.toList with
      | [c] => return .int c.toNat
      | cs =>
        Run.raise "TypeError"
          s!"ord() expected a character, but string of length {cs.length} found"
    | .bytes [x] => return .int x.toNat
    | _ =>
      Run.raise "TypeError"
        s!"ord() expected string of length 1, but {a.kindName} found"
  | "pow" =>
    match ← shareArguments name ["base", "exp", "mod"] 0 2 positions keywords with
    | [some x, some y, z] => powerOf x y z
    | _ => return .none
  | "print" =>
    match ← shareArguments name ["sep", "end", "file", "flush"] 0 0 [] keywords with
    | separator :: ending :: _ => printValues positions separator ending
    | _ => return .none
  | "repr" => count 1 1; return .text (← shown a)
  | "round" =>
    match ← shareArguments name ["number", "ndigits"] 0 1 positions keywords with
    | [some x, n] => roundValue x n
    | _ => return .none
  | "setattr" =>
    count 3 3
    match b with
    | .text n =>
      setAttribute a n
      return .none
    | _ => Run.raise "TypeError" s!"attribute name must be string, not '{b.kindName}'"
  | "sorted" =>
    demandCount name 1 1 positions []
    let (key, backwards) ← sortOptions name keywords
    Run.newList (← sortValues m key backwards (← itemsOf m a)).toArray
  | "sum" =>
    match ← shareArguments name ["iterable", "start"] 1 1 positions keywords with
    | [some v, start] => sumOf m v (start.getD (.int 0))
    | _ => return .none
  | _ => Run.leaveOpen

end LambdaText
