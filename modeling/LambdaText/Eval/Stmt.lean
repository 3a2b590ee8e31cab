import LambdaText.Builtin.Construct
import LambdaText.Eval.Assign
import LambdaText.Eval.Compile
import LambdaText.Eval.Expr

/-!
# Statements

Running statements in a scope. A block ends early when a statement leaves a loop or gives a result;
errors are taken by the first handler that fits, and what has to be done at the end is done however
a block ends.
-/

namespace LambdaText

open LambdaText.Code

variable (m : Machine)

/-! ### Assignments in place -/

def operateInPlace (op : BinaryOp) (a b : Value) : Run Value := do
  match op, a, b with
  | .add, .list x, _ =>
    let more ← itemsOf m b
    Run.setCell x (.list ((← Run.listItems x) ++ more.toArray))
    return a
  | .multiply, .list x, _ =>
    match ← operate .multiply a b with
    | .list y =>
      Run.setCell x (.list (← Run.listItems y))
      return a
    | v => return v
  | .bitOr, .dict x, _ =>
    Run.setCell x (.dict (← updateEntries m (← Run.dictEntries x) (some b) []))
    return a
  | _, .set x, .set _ =>
    match ← operate op a b with
    | .set y =>
      Run.setCell x (.set (← Run.setItems y))
      return a
    | v => return v
  | _, _, _ => binaryOperation op a b

def augment (scope : Scope) (target : Expr) (op : BinaryOp) (e : Expr) : Run Unit := do
  match target with
  | .name n =>
    let a ← lookupName scope n
    let b ← m.expr scope e
    bindName scope n (← operateInPlace m op a b)
  | .attribute o n =>
    let object ← m.expr scope o
    let a ← attributeOf object n
    let b ← m.expr scope e
    let _ ← operateInPlace m op a b
    setAttribute object n
  | .subscript o i =>
    let object ← m.expr scope o
    let index ← m.expr scope i
    let a ← getItem object index
    let b ← m.expr scope e
    let v ← operateInPlace m op a b
    setItem object index v (itemsOf m v)
  | _ => return ()

/-- Evaluates the parts of a target that is annotated without a value. -/
def touchTarget (scope : Scope) (target : Expr) : Run Unit := do
  match target with
  | .attribute o _ => let _ ← m.expr scope o
  | .subscript o i =>
    let _ ← m.expr scope o
    let _ ← m.expr scope i
  | _ => return ()

/-- Gives a value to targets, one after the other. -/
def assignAll (scope : Scope) (v : Value) : List Expr → Run Unit
  | [] => return ()
  | t :: rest => do
    assign m scope t v
    assignAll scope v rest

/-! ### Errors -/

/-- The error that a value stands for: itself, or a new one of its class. -/
def errorOf (message : String) (v : Value) : Run Value := do
  match v with
  | .error _ _ _ => return v
  | .type kind =>
    if belongsTo kind "BaseException" then m.call v [] []
    else Run.raise "TypeError" message
  | _ => Run.raise "TypeError" message

def raiseValue (scope : Scope) (value cause : Option Expr) : Run Unit := do
  match value with
  | none =>
    match (← get).handled with
    | e :: _ => throw e
    | [] => Run.raise "RuntimeError" "No active exception to reraise"
  | some e =>
    let v ← m.expr scope e
    let cause ← evalOption m scope cause
    let error ← errorOf m "exceptions must derive from BaseException" v
    match cause with
    | .none => pure ()
    | c => let _ ← errorOf m "exception causes must derive from BaseException" c
    throw error

def takesError (error : Value) : Value → Run Bool
  | .type kind =>
    if belongsTo kind "BaseException" then return belongsTo error.kindName kind
    else badHandler
  | .tuple kinds =>
    if kinds.all isErrorClass then
      return kinds.any fun k => match k with
        | .type kind => belongsTo error.kindName kind
        | _ => false
    else badHandler
  | _ => badHandler
where
  isErrorClass : Value → Bool
    | .type kind => belongsTo kind "BaseException"
    | _ => false
  badHandler : Run Bool :=
    Run.raise "TypeError"
      "catching classes that do not inherit from BaseException is not allowed"

/-- Runs a computation and keeps its error, if it fails. -/
def attempted {α : Type} (r : Run α) : Run (Except Value α) :=
  tryCatch (Except.ok <$> r) fun e => pure (Except.error e)

def resume {α : Type} (result : Except Value α) : Run α :=
  match result with
  | .ok a => return a
  | .error e => throw e

def whileHandling {α : Type} (error : Value) (r : Run α) : Run α := do
  let handled := (← get).handled
  modify fun s => { s with handled := error :: handled }
  let result ← attempted r
  modify fun s => { s with handled }
  resume result

def runHandler (scope : Scope) (error : Value) (name : Option String) (body : List Stmt) :
    Run Flow := do
  match name with
  | none => m.block scope body
  | some n =>
    bindName scope n error
    let result ← attempted (m.block scope body)
    bindName scope n .none
    removeName scope n
    resume result

def handleError (scope : Scope) (error : Value) : List Handler → Run Flow
  | [] => throw error
  | .mk kind name body :: rest => do
    let takes ← match kind with
      | none => pure true
      | some e => takesError error (← m.expr scope e)
    if takes then runHandler m scope error name body else handleError scope error rest

/-- Runs a block, its handlers, and what follows if the block ends well. -/
def runGuarded (scope : Scope) (body : List Stmt) (handlers : List Handler)
    (otherwise : List Stmt) : Run Flow := do
  match ← attempted (m.block scope body) with
  | .ok .done => m.block scope otherwise
  | .ok flow => return flow
  | .error e => whileHandling e (handleError m scope e handlers)

/-- Runs a block in the end, however another one ended. -/
def runFinally (scope : Scope) (result : Except Value Flow) (final : List Stmt) : Run Flow := do
  let flow ← match result with
    | .ok _ => m.block scope final
    | .error e => whileHandling e (m.block scope final)
  match flow with
  | .done => resume result
  | flow => return flow

/-! ### Loops -/

/-- What a loop does after its body: it goes on, or ends in a way. -/
def afterBody {σ : Type} (s : σ) : Flow → σ ⊕ Flow
  | .done | .next => .inl s
  | .leave => .inr .done
  | .give v => .inr (.give v)

def runWhile (scope : Scope) (test : Expr) (body otherwise : List Stmt) : Run Flow :=
  Run.iterate (fun (_ : Unit) => do
    if ← truth (← m.expr scope test) then return afterBody () (← m.block scope body)
    else return .inr (← m.block scope otherwise)) ()

/-- Repeats a block for the items of a sequence. -/
def runFor (scope : Scope) (target sequence : Expr) (body otherwise : List Stmt) :
    Run Flow := do
  let it ← iterator (← m.expr scope sequence)
  foldItems m it
    (fun _ v => do
      assign m scope target v
      return afterBody () (← m.block scope body))
    (fun _ => m.block scope otherwise) ()

/-- Evaluates hints, whose values are not kept. -/
def touchAll (scope : Scope) : List Expr → Run Unit
  | [] => return ()
  | e :: rest => do
    let _ ← m.expr scope e
    touchAll scope rest

/-- Runs a statement. -/
def stmtStep (scope : Scope) (s : Stmt) : Run Flow := do
  match s with
  | .expression e =>
    let _ ← m.expr scope e
    return .done
  | .assign targets e =>
    assignAll m scope (← m.expr scope e) targets
    return .done
  | .augment target op e =>
    augment m scope target op e
    return .done
  | .annotate target _ value _ =>
    match value with
    | some e => assign m scope target (← m.expr scope e)
    | none => touchTarget m scope target
    return .done
  | .conditional test yes no =>
    if ← truth (← m.expr scope test) then m.block scope yes else m.block scope no
  | .whileLoop test body otherwise => runWhile m scope test body otherwise
  | .forLoop target sequence body otherwise => runFor m scope target sequence body otherwise
  | .attempt body handlers otherwise final =>
    if final.isEmpty then runGuarded m scope body handlers otherwise
    else runFinally m scope (← attempted (runGuarded m scope body handlers otherwise)) final
  | .define name parameters hints body =>
    let defaults ← evalDefaults m scope parameters
    touchAll m scope hints
    let f ← makeFunction scope (namedRoutine name parameters body) defaults
    bindName scope name f
    return .done
  | .give value => return .give (← evalOption m scope value)
  | .raise value cause =>
    raiseValue m scope value cause
    return .done
  | .assert test message =>
    if ← truth (← m.expr scope test) then return .done
    else match message with
      | none => throw (.error "AssertionError" [] none)
      | some e => throw (.error "AssertionError" [← m.expr scope e] none)
  | .delete targets =>
    targets.forM (delete m scope)
    return .done
  | .globalNames _ | .outerNames _ | .pass => return .done
  | .leave => return .leave
  | .next => return .next

def blockStep (scope : Scope) : List Stmt → Run Flow
  | [] => return .done
  | s :: rest => do
    match ← stmtStep m scope s with
    | .done => blockStep scope rest
    | flow => return flow

end LambdaText
