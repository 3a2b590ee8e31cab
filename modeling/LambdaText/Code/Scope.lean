import LambdaText.Code.Syntax

/-!
# Names and scopes

Which names an expression or a block mentions and binds, and whether it can be made a function:
assignments keep away from the names of comprehensions, nothing waits outside an asynchronous
function, parameters and keywords are not repeated, and declared names are declared in time. All of
this is one pass that composes the usage of a whole from the usage of its parts.
-/

namespace LambdaText.Code

def lockedName : String := "__debug__"

/-- Where an expression stands. -/
structure Place where
  comprehension : Bool := false
  loopNames : List String := []
  sequence : Bool := false

/-- How an expression uses names. -/
structure Usage where
  mentioned : List String := []
  /-- The names that assignments inside the expression bind in the function around. -/
  bound : List String := []
  awaits : Bool := false
  yields : Bool := false
  sound : Place → Bool := fun _ => true

namespace Usage

def append (a b : Usage) : Usage where
  mentioned := a.mentioned ++ b.mentioned
  bound := a.bound ++ b.bound
  awaits := a.awaits || b.awaits
  yields := a.yields || b.yields
  sound := fun p => a.sound p && b.sound p

instance : Append Usage := ⟨append⟩

/-- A part that has to satisfy a further condition. -/
def require (u : Usage) (condition : Bool) : Usage :=
  { u with sound := fun p => condition && u.sound p }

def wrong : Usage := { sound := fun _ => false }

def inSequence (u : Usage) : Usage :=
  { u with sound := fun p => u.sound { p with sequence := true } }

/-- An assignment inside an expression: not to a loop name, and not in a sequence. -/
def assign (name : String) (value : Usage) : Usage :=
  value ++
    { mentioned := [name]
      bound := [name]
      sound := fun p => name != lockedName && !p.sequence && !p.loopNames.contains name }

def ofFunction (parameters : List String) (body : Usage) : Usage :=
  { sound := fun p =>
      decide parameters.Nodup && !parameters.contains lockedName && !body.awaits &&
        body.sound { sequence := p.sequence } }

/-- A comprehension: its first sequence is computed in the scope around, all else in its own. What
waits may stand in a generator, or inside another comprehension. -/
def ofComprehension (generator : Bool) (loopNames : List String) (first inner : Usage)
    (asynchronous : Bool) : Usage :=
  let awaits := !generator && (asynchronous || inner.awaits)
  { mentioned := first.mentioned ++ inner.bound
    bound := first.bound ++ inner.bound
    awaits := first.awaits || awaits
    yields := first.yields
    sound := fun p =>
      first.inSequence.sound p && !inner.yields && !loopNames.contains lockedName &&
        (!awaits || p.comprehension) &&
        inner.sound ⟨true, loopNames ++ p.loopNames, p.sequence⟩ }

end Usage

mutual

def Expr.targetNames : Expr → List String
  | .name n => [n]
  | .tuple items | .list items => targetNamesOfAll items
  | .star e => e.targetNames
  | _ => []

def targetNamesOfAll : List Expr → List String
  | [] => []
  | e :: rest => e.targetNames ++ targetNamesOfAll rest

end

def Expr.isStar : Expr → Bool
  | .star _ => true
  | _ => false

mutual

/-- Whether a target spreads at most once in every row, and only in rows. -/
def Expr.spreadsWell : Expr → Bool
  | .tuple items | .list items => items.countP Expr.isStar ≤ 1 && allSpreadWell items
  | .star _ => false
  | _ => true

/-- Whether the members of a row spread well; a member may itself be spread. -/
def allSpreadWell : List Expr → Bool
  | [] => true
  | .star e :: rest => e.spreadsWell && allSpreadWell rest
  | e :: rest => e.spreadsWell && allSpreadWell rest

end

def keywordsOf (arguments : List Argument) : List String :=
  arguments.filterMap fun a => match a with
    | .keyword n _ => some n
    | _ => none

def loopNamesOf (clauses : List Clause) : List String :=
  clauses.flatMap fun c => match c with
    | .loop target _ _ => target.targetNames
    | .condition _ => []

def Clause.waits : Clause → Bool
  | .loop _ _ isAsync => isAsync
  | .condition _ => false

mutual

def Expr.usage : Expr → Usage
  | .constant _ => {}
  | .name n => { mentioned := [n] }
  | .template ps => piecesUsage ps
  | .tuple items | .list items | .set items => itemsUsage items
  | .dict entries => entriesUsage entries
  | .unary _ e => e.usage
  | .binary _ a b => a.usage ++ b.usage
  | .connective _ es => allUsage es
  | .comparison e rest => e.usage ++ comparandsUsage rest
  | .conditional a b c => a.usage ++ b.usage ++ c.usage
  | .attribute e _ => e.usage
  | .subscript e i => e.usage ++ i.usage
  | .slice a b c => optionUsage a ++ optionUsage b ++ optionUsage c
  | .call f as =>
    let keywords := keywordsOf as
    (f.usage ++ argumentsUsage as).require
      (decide keywords.Nodup && !keywords.contains lockedName)
  | .lambda ps body =>
    defaultsUsage ps ++ Usage.ofFunction (ps.map Parameter.name) body.usage
  | .comprehension kind item value clauses =>
    match clauses with
    | .loop target sequence isAsync :: rest =>
      let parts := targetUsage target
      let inner := parts ++ clausesUsage rest ++ item.usage ++ optionUsage value
      Usage.ofComprehension (decide (kind = .generator))
        (target.targetNames ++ parts.mentioned ++ loopNamesOf rest) sequence.usage inner
        (isAsync || rest.any Clause.waits)
    | _ => .wrong
  | .assignment n e => Usage.assign n e.usage
  | .star _ => .wrong
  | .await e => e.usage ++ { awaits := true }
  | .yield e => optionUsage e ++ { yields := true }
  | .yieldFrom e => e.usage ++ { yields := true }

/-- How the parts of a target use names; the names it binds are not counted. -/
def targetUsage : Expr → Usage
  | .name _ => {}
  | .tuple items => (targetsUsage items).require (Expr.spreadsWell (.tuple items))
  | .list items => (targetsUsage items).require (Expr.spreadsWell (.list items))
  | .attribute e n => e.usage.require (n != lockedName)
  | .subscript e i => e.usage ++ i.usage
  | _ => .wrong

/-- How the members of a row of targets use names. -/
def targetsUsage : List Expr → Usage
  | [] => {}
  | .star e :: rest => targetUsage e ++ targetsUsage rest
  | e :: rest => targetUsage e ++ targetsUsage rest

def allUsage : List Expr → Usage
  | [] => {}
  | e :: rest => e.usage ++ allUsage rest

def itemsUsage : List Expr → Usage
  | [] => {}
  | .star e :: rest => e.usage ++ itemsUsage rest
  | e :: rest => e.usage ++ itemsUsage rest

/-- How an expression that may be absent uses names. -/
def optionUsage : Option Expr → Usage
  | none => {}
  | some e => e.usage

/-- How the parts of a template use names. -/
def piecesUsage : List Piece → Usage
  | [] => {}
  | .text _ :: rest => piecesUsage rest
  | .field e _ format :: rest => e.usage ++ piecesUsage format ++ piecesUsage rest

def entriesUsage : List Entry → Usage
  | [] => {}
  | .pair k v :: rest => k.usage ++ v.usage ++ entriesUsage rest
  | .spread e :: rest => e.usage ++ entriesUsage rest

/-- How the operands of a chained comparison use names. -/
def comparandsUsage : List Comparand → Usage
  | [] => {}
  | .mk _ e :: rest => e.usage ++ comparandsUsage rest

def argumentsUsage : List Argument → Usage
  | [] => {}
  | .positional e :: rest => e.usage ++ argumentsUsage rest
  | .star e :: rest => e.usage ++ argumentsUsage rest
  | .keyword _ e :: rest => e.usage ++ argumentsUsage rest
  | .spread e :: rest => e.usage ++ argumentsUsage rest

def defaultsUsage : List Parameter → Usage
  | [] => {}
  | .mk _ _ d :: rest => optionUsage d ++ defaultsUsage rest

/-- How the clauses of a comprehension use names, from its own scope on. -/
def clausesUsage : List Clause → Usage
  | [] => {}
  | .loop target sequence _ :: rest =>
    targetUsage target ++ sequence.usage.inSequence ++ clausesUsage rest
  | .condition e :: rest => e.usage ++ clausesUsage rest

end

def isFunction (parameters : List String) (body : Expr) : Bool :=
  (Usage.ofFunction parameters body.usage).sound {}

/-! ### Blocks -/

/-- How statements use names. -/
structure BlockUsage where
  mentioned : List String := []
  bound : List String := []
  globals : List String := []
  outer : List String := []
  annotated : List String := []
  needed : List String := []
  yields : Bool := false
  /-- Whether the block may stand inside a loop (`true`) or outside. -/
  sound : Bool → Bool := fun _ => true

namespace BlockUsage

def declared (u : BlockUsage) : List String := u.globals ++ u.outer

/-- One block after another; a name is declared before it is mentioned. -/
def append (a b : BlockUsage) : BlockUsage where
  mentioned := a.mentioned ++ b.mentioned
  bound := a.bound ++ b.bound
  globals := a.globals ++ b.globals
  outer := a.outer ++ b.outer
  annotated := a.annotated ++ b.annotated
  needed := a.needed ++ b.needed
  yields := a.yields || b.yields
  sound := fun loop =>
    a.sound loop && b.sound loop && !b.declared.any a.mentioned.contains

instance : Append BlockUsage := ⟨append⟩

def ofUsage (u : Usage) : BlockUsage where
  mentioned := u.mentioned
  bound := u.bound
  yields := u.yields
  sound := fun _ => !u.awaits && u.sound {}

def ofExpr (e : Expr) : BlockUsage := ofUsage e.usage

def ofOption (e : Option Expr) : BlockUsage := ofUsage (optionUsage e)

def binding (name : String) : BlockUsage :=
  { mentioned := [name], bound := [name], sound := fun _ => name != lockedName }

def target (e : Expr) : BlockUsage :=
  let names := e.targetNames
  ofUsage (targetUsage e) ++
    { mentioned := names, bound := names, sound := fun _ => !names.contains lockedName }

def targets (es : List Expr) : BlockUsage := es.foldl (fun u e => u ++ target e) {}

def inLoop (u : BlockUsage) : BlockUsage := { u with sound := fun _ => u.sound true }

def require (u : BlockUsage) (condition : Bool) : BlockUsage :=
  { u with sound := fun loop => condition && u.sound loop }

/-- The names that belong to a function with these parameters and this body. -/
def locals (parameters : List String) (u : BlockUsage) : List String :=
  parameters ++ u.bound.filter fun n => !u.declared.contains n

/-- The names that a function leaves to the functions around it. -/
def open_ (parameters : List String) (u : BlockUsage) : List String :=
  u.outer ++ u.needed.filter fun n => !(u.locals parameters).contains n

def makesFunction (parameters : List String) (u : BlockUsage) : Bool :=
  decide parameters.Nodup && !parameters.contains lockedName &&
    !parameters.any u.declared.contains && !u.globals.any u.outer.contains &&
    !u.annotated.any u.declared.contains && u.sound false

/-- A function definition, seen from the scope around. -/
def ofFunction (parameters : List String) (body : BlockUsage) : BlockUsage :=
  { needed := body.open_ parameters, sound := fun _ => body.makesFunction parameters }

end BlockUsage

mutual

def Stmt.usage : Stmt → BlockUsage
  | .expression e => .ofExpr e
  | .assign targets value => .ofExpr value ++ .targets targets
  | .augment target _ value => .target target ++ .ofExpr value
  | .annotate target hint value simple =>
    (if simple || value.isSome then .target target else .ofUsage (targetUsage target)) ++
      (if simple then { annotated := target.targetNames } else {}) ++
      .ofExpr hint ++ .ofOption value
  | .conditional test yes no => .ofExpr test ++ blockUsage yes ++ blockUsage no
  | .whileLoop test body otherwise =>
    .ofExpr test ++ (blockUsage body).inLoop ++ blockUsage otherwise
  | .forLoop target sequence body otherwise =>
    .target target ++ .ofExpr sequence ++ (blockUsage body).inLoop ++ blockUsage otherwise
  | .attempt body handlers otherwise final =>
    blockUsage body ++ blockUsage otherwise ++ handlersUsage handlers ++ blockUsage final
  | .define name ps hints body =>
    .binding name ++ .ofUsage (defaultsUsage ps) ++ .ofUsage (itemsUsage hints) ++
      .ofFunction (ps.map Parameter.name) (blockUsage body)
  | .give value => .ofOption value
  | .raise value cause => .ofOption value ++ .ofOption cause
  | .assert test message => .ofExpr test ++ .ofOption message
  | .delete targets => .targets targets
  | .globalNames names => { globals := names }
  | .outerNames names => { outer := names }
  | .leave => { sound := id }
  | .next => { sound := id }
  | .pass => {}

def blockUsage : List Stmt → BlockUsage
  | [] => {}
  | s :: rest => s.usage ++ blockUsage rest

def handlersUsage : List Handler → BlockUsage
  | [] => {}
  | .mk kind name body :: rest =>
    .ofOption kind ++ (match name with
      | some n => .binding n
      | none => {}) ++ blockUsage body ++ handlersUsage rest

end

/-- Whether a module of statements may be run: every name that has to be bound around a function
is bound there. -/
def isModule (block : List Stmt) : Bool :=
  let u := blockUsage block
  u.sound false && u.needed.isEmpty && u.outer.isEmpty && !u.yields

end LambdaText.Code
