import LambdaText.Eval.Levels
import LambdaText.Proofs.Detached.Builtins

/-!
# The evaluator is detached

Evaluating an expression, running a block, calling a value and advancing an iterator are the same in
all surroundings: by the steps of the evaluator for any detached machine, and then, by induction on
the level, for the machine that the library uses. So a call of a function is the same whatever the
environment says by then, and whichever compiler is the shared one.
-/

namespace LambdaText

open LambdaText.Code LambdaText.Function LambdaText.Log

/-! ### Arguments -/

instance detached_spreadItems (m : Machine) [m.Detached] (v : Value) :
    (spreadItems m v).Detached := by
  unfold spreadItems
  repeat' first | infer_instance | split | with_reducible refine .bind ?_ fun _ => ?_

instance detached_evalItems (m : Machine) [m.Detached] (scope : Scope) (items : List Expr) :
    (evalItems m scope items).Detached := by
  fun_induction evalItems m scope items <;> infer_instance

instance detached_spreadEntries (v : Value) : (spreadEntries v).Detached := by
  unfold spreadEntries
  split <;> infer_instance

instance detached_addChecked (entries : Array (Value × Value)) (more : List (Value × Value)) :
    (addChecked entries more).Detached := by
  fun_induction addChecked entries more <;> infer_instance

instance detached_evalEntries (m : Machine) [m.Detached] (scope : Scope)
    (entries : Array (Value × Value)) (waiting : List (Value × Value)) (rest : List Entry) :
    (evalEntries m scope entries waiting rest).Detached := by
  fun_induction evalEntries m scope entries waiting rest <;> infer_instance

instance detached_evalPositions (m : Machine) [m.Detached] (scope : Scope)
    (arguments : List Argument) : (evalPositions m scope arguments).Detached := by
  fun_induction evalPositions m scope arguments <;> infer_instance

instance detached_addKeyword (keywords : Keywords) (name : String) (v : Value) :
    (addKeyword keywords name v).Detached := by
  unfold addKeyword
  infer_instance

instance detached_addSpread (keywords : Keywords) (entries : List (Value × Value)) :
    (addSpread keywords entries).Detached := by
  fun_induction addSpread keywords entries <;> infer_instance

instance detached_evalKeywords (m : Machine) [m.Detached] (scope : Scope) (keywords : Keywords)
    (arguments : List Argument) : (evalKeywords m scope keywords arguments).Detached := by
  fun_induction evalKeywords m scope keywords arguments <;> infer_instance

instance detached_evalDefaults (m : Machine) [m.Detached] (scope : Scope)
    (parameters : List Parameter) : (evalDefaults m scope parameters).Detached := by
  fun_induction evalDefaults m scope parameters <;> infer_instance

/-! ### Assignment -/

instance detached_shareOut (m : Machine) [m.Detached] (v : Value) (before : Nat)
    (behind : Option Nat) : (shareOut m v before behind).Detached := by
  unfold shareOut
  repeat' first | infer_instance | split | with_reducible refine .bind ?_ fun _ => ?_

mutual

theorem detached_assign (m : Machine) [m.Detached] (scope : Scope) (target : Expr) (v : Value) :
    (assign m scope target v).Detached := by
  cases target with
  | tuple targets =>
    unfold assign
    exact .bind inferInstance fun values => detached_assignRow m scope targets values
  | list targets =>
    unfold assign
    exact .bind inferInstance fun values => detached_assignRow m scope targets values
  | star t =>
    unfold assign
    exact detached_assign m scope t v
  | _ =>
    unfold assign
    infer_instance

theorem detached_assignRow (m : Machine) [m.Detached] (scope : Scope) (targets : List Expr)
    (values : List Value) : (assignRow m scope targets values).Detached := by
  cases targets with
  | nil =>
    unfold assignRow
    infer_instance
  | cons t targets =>
    cases values with
    | nil =>
      unfold assignRow
      infer_instance
    | cons v values =>
      unfold assignRow
      exact .bind (detached_assign m scope t v) fun _ => detached_assignRow m scope targets values

end

attribute [instance] detached_assign detached_assignRow

mutual

theorem detached_delete (m : Machine) [m.Detached] (scope : Scope) (target : Expr) :
    (delete m scope target).Detached := by
  cases target with
  | tuple targets =>
    unfold delete
    exact detached_deleteAll m scope targets
  | list targets =>
    unfold delete
    exact detached_deleteAll m scope targets
  | _ =>
    unfold delete
    infer_instance

theorem detached_deleteAll (m : Machine) [m.Detached] (scope : Scope) (targets : List Expr) :
    (delete.deleteAll m scope targets).Detached := by
  cases targets with
  | nil =>
    unfold delete.deleteAll
    infer_instance
  | cons t targets =>
    unfold delete.deleteAll
    exact .bind (detached_delete m scope t) fun _ => detached_deleteAll m scope targets

end

attribute [instance] detached_delete

/-! ### Calls of functions -/

instance detached_runBody (m : Machine) [m.Detached] (scope : Scope) (code : Routine) :
    (runBody m scope code).Detached := by
  unfold runBody
  repeat' first | infer_instance | split | with_reducible refine .bind ?_ fun _ => ?_

instance detached_invoke (m : Machine) [m.Detached] (code : Routine) (scope : Scope)
    (name : String) (defaults : List (String × Value)) (positions : List Value)
    (keywords : List (String × Value)) :
    (invoke m code scope name defaults positions keywords).Detached := by
  unfold invoke
  infer_instance

/-! ### Comprehensions -/

instance detached_notAwaitable {α : Type} (v : Value) : (notAwaitable v : Run α).Detached := by
  unfold notAwaitable
  infer_instance

instance detached_firstIterator (v : Value) (isAsync : Bool) :
    (firstIterator v isAsync).Detached := by
  unfold firstIterator
  repeat' first | infer_instance | split

instance detached_comprehensionIterator (m : Machine) [m.Detached] (scope : Scope)
    (kind : Comprehended) (item : Expr) (value : Option Expr) (clauses : List Clause) :
    (comprehensionIterator m scope kind item value clauses).Detached := by
  unfold comprehensionIterator
  split <;> infer_instance

instance detached_addComprehended (entries : Array (Value × Value)) (v : Value) :
    (addComprehended entries v).Detached := by
  unfold addComprehended
  infer_instance

instance detached_comprehend (m : Machine) [m.Detached] (scope : Scope) (kind : Comprehended)
    (item : Expr) (value : Option Expr) (clauses : List Clause) :
    (comprehend m scope kind item value clauses).Detached := by
  unfold comprehend
  split <;> infer_instance

/-! ### Expressions -/

instance detached_converted (conversion : Conversion) (v : Value) :
    (converted conversion v).Detached := by
  unfold converted
  split <;> infer_instance

instance detached_templateText (m : Machine) [m.Detached] (scope : Scope) (pieces : List Piece) :
    (templateText m scope pieces).Detached := by
  fun_induction templateText m scope pieces <;> infer_instance

instance detached_compareValues (m : Machine) [m.Detached] (op : CompareOp) (a b : Value) :
    (compareValues m op a b).Detached := by
  unfold compareValues
  split <;> infer_instance

instance detached_compareChain (m : Machine) [m.Detached] (scope : Scope) (a : Value)
    (rest : List Comparand) : (compareChain m scope a rest).Detached := by
  fun_induction compareChain m scope a rest <;> infer_instance

instance detached_connect (m : Machine) [m.Detached] (scope : Scope) (conjunction : Bool)
    (operands : List Expr) : (connect m scope conjunction operands).Detached := by
  fun_induction connect m scope conjunction operands <;> infer_instance

instance detached_evalOption (m : Machine) [m.Detached] (scope : Scope) (e : Option Expr) :
    (evalOption m scope e).Detached := by
  unfold evalOption
  split <;> infer_instance

/-! ### Calls from a scope -/

instance detached_callIn (m : Machine) [m.Detached] (scope : Scope) (f : Value)
    (positions : List Value) (keywords : Keywords) :
    (callIn m scope f positions keywords).Detached := by
  unfold callIn
  split <;> infer_instance

instance detached_evalCall (m : Machine) [m.Detached] (scope : Scope) (function : Expr)
    (arguments : List Argument) : (evalCall m scope function arguments).Detached := by
  unfold evalCall
  infer_instance

instance detached_exprStep (m : Machine) [m.Detached] (scope : Scope) (e : Expr) :
    (exprStep m scope e).Detached := by
  unfold exprStep
  repeat' first | infer_instance | split

/-! ### Statements -/

instance detached_operateInPlace (m : Machine) [m.Detached] (op : BinaryOp) (a b : Value) :
    (operateInPlace m op a b).Detached := by
  unfold operateInPlace
  repeat' first | infer_instance | split | with_reducible refine .bind ?_ fun _ => ?_

instance detached_augment (m : Machine) [m.Detached] (scope : Scope) (target : Expr)
    (op : BinaryOp) (e : Expr) : (augment m scope target op e).Detached := by
  unfold augment
  split <;> infer_instance

instance detached_touchTarget (m : Machine) [m.Detached] (scope : Scope) (target : Expr) :
    (touchTarget m scope target).Detached := by
  unfold touchTarget
  split <;> infer_instance

instance detached_assignAll (m : Machine) [m.Detached] (scope : Scope) (v : Value)
    (targets : List Expr) : (assignAll m scope v targets).Detached := by
  fun_induction assignAll m scope v targets <;> infer_instance

instance detached_errorOf (m : Machine) [m.Detached] (message : String) (v : Value) :
    (errorOf m message v).Detached := by
  unfold errorOf
  split <;> infer_instance

instance detached_raiseValue (m : Machine) [m.Detached] (scope : Scope) (value cause : Option Expr) :
    (raiseValue m scope value cause).Detached := by
  unfold raiseValue
  cases value with
  | none => exact Run.detached_get_bind (fun s => by split <;> infer_instance) fun _ _ _ _ => rfl
  | some e =>
    dsimp only
    repeat' first | infer_instance | split | with_reducible refine .bind ?_ fun _ => ?_

instance detached_takesError (error v : Value) : (takesError error v).Detached := by
  unfold takesError takesError.badHandler
  split <;> infer_instance

instance detached_attempted {α : Type} (r : Run α) [r.Detached] : (attempted r).Detached := by
  unfold attempted
  infer_instance

instance detached_resume {α : Type} (result : Except Value α) : (resume result).Detached := by
  unfold resume
  split <;> infer_instance

instance detached_whileHandling {α : Type} (error : Value) (r : Run α) [r.Detached] :
    (whileHandling error r).Detached := by
  have hmodify (handled : List Value) :
      (modify fun s => { s with handled } : Run PUnit).Detached :=
    Run.respects_modify (fun _ _ _ _ => rfl) (fun _ => rfl) fun _ h => h
  exact Run.detached_get_bind (fun s => .bind (hmodify _) fun _ => .bind inferInstance fun _ =>
    .bind (hmodify _) fun _ => inferInstance) fun _ _ _ _ => rfl

instance detached_runHandler (m : Machine) [m.Detached] (scope : Scope) (error : Value)
    (name : Option String) (body : List Stmt) : (runHandler m scope error name body).Detached := by
  unfold runHandler
  split <;> infer_instance

instance detached_handleError (m : Machine) [m.Detached] (scope : Scope) (error : Value)
    (handlers : List Handler) : (handleError m scope error handlers).Detached := by
  fun_induction handleError m scope error handlers <;> infer_instance

instance detached_runGuarded (m : Machine) [m.Detached] (scope : Scope) (body : List Stmt)
    (handlers : List Handler) (otherwise : List Stmt) :
    (runGuarded m scope body handlers otherwise).Detached := by
  unfold runGuarded
  refine .bind inferInstance fun _ => ?_
  split <;> infer_instance

instance detached_runFinally (m : Machine) [m.Detached] (scope : Scope)
    (result : Except Value Flow) (final : List Stmt) :
    (runFinally m scope result final).Detached := by
  unfold runFinally
  dsimp only
  repeat' first | infer_instance | split | with_reducible refine .bind ?_ fun _ => ?_

instance detached_runWhile (m : Machine) [m.Detached] (scope : Scope) (test : Expr)
    (body otherwise : List Stmt) : (runWhile m scope test body otherwise).Detached := by
  unfold runWhile
  infer_instance

instance detached_runFor (m : Machine) [m.Detached] (scope : Scope) (target sequence : Expr)
    (body otherwise : List Stmt) : (runFor m scope target sequence body otherwise).Detached := by
  unfold runFor
  infer_instance

instance detached_touchAll (m : Machine) [m.Detached] (scope : Scope) (hints : List Expr) :
    (touchAll m scope hints).Detached := by
  fun_induction touchAll m scope hints <;> infer_instance

instance detached_stmtStep (m : Machine) [m.Detached] (scope : Scope) (s : Stmt) :
    (stmtStep m scope s).Detached := by
  unfold stmtStep
  repeat' first | infer_instance | split

instance detached_blockStep (m : Machine) [m.Detached] (scope : Scope) (statements : List Stmt) :
    (blockStep m scope statements).Detached := by
  fun_induction blockStep m scope statements
  all_goals repeat' first | infer_instance | split | with_reducible refine .bind ?_ fun _ => ?_

/-! ### Iterators -/

instance detached_proceed (address : Nat) (i : Iterator) (v : Value) :
    (proceed address i v).Detached := by
  unfold proceed
  infer_instance

instance detached_finish (address : Nat) : (finish address).Detached := by
  unfold finish
  infer_instance

instance detached_nextRow (m : Machine) [m.Detached] (sources : List Value) :
    (nextRow m sources).Detached := by
  fun_induction nextRow m sources
  all_goals repeat' first | infer_instance | split | with_reducible refine .bind ?_ fun _ => ?_

instance detached_allEnded (m : Machine) [m.Detached] (sources : List Value) :
    (allEnded m sources).Detached := by
  fun_induction allEnded m sources
  all_goals repeat' first | infer_instance | split | with_reducible refine .bind ?_ fun _ => ?_

instance detached_checkRow (m : Machine) [m.Detached] (strict : Bool) (sources : List Value)
    (i : Nat) (rest : List Value) : (checkRow m strict sources i rest).Detached := by
  fun_induction checkRow m strict sources i rest
  all_goals repeat' first | infer_instance | split | with_reducible refine .bind ?_ fun _ => ?_

instance detached_allHold (m : Machine) [m.Detached] (scope : Scope) (conditions : List Expr) :
    (allHold m scope conditions).Detached := by
  fun_induction allHold m scope conditions <;> infer_instance

instance detached_comprehendedItem (m : Machine) [m.Detached] (scope : Scope) (item : Expr)
    (value : Option Expr) : (comprehendedItem m scope item value).Detached := by
  unfold comprehendedItem
  split <;> infer_instance

instance detached_comprehensionStep (m : Machine) [m.Detached] (address : Nat) (scope : Scope)
    (item : Expr) (value : Option Expr) (loops : List Loop) (opened : List Value) :
    (comprehensionStep m address scope item value loops opened).Detached := by
  unfold comprehensionStep
  repeat' first | infer_instance | split | with_reducible refine .bind ?_ fun _ => ?_

instance detached_advanceComprehension (m : Machine) [m.Detached] (address : Nat) (scope : Scope)
    (item : Expr) (value : Option Expr) (loops : List Loop) (opened : List Value) :
    (advanceComprehension m address scope item value loops opened).Detached := by
  unfold advanceComprehension
  infer_instance

instance detached_startRoutine (m : Machine) [m.Detached] (address : Nat) (scope : Scope)
    (code : Routine) : (startRoutine m address scope code).Detached := by
  unfold startRoutine
  repeat' first | infer_instance | split

instance detached_advanceFilter (m : Machine) [m.Detached] (test source : Value) :
    (advanceFilter m test source).Detached := by
  unfold advanceFilter
  split <;> infer_instance

instance detached_advanceStep (m : Machine) [m.Detached] (address : Nat) :
    (advanceStep m address).Detached := by
  unfold advanceStep
  dsimp only
  repeat' first | infer_instance | split | with_reducible refine .bind ?_ fun _ => ?_

/-! ### Calls -/

instance detached_callPlain (m : Machine) [m.Detached] (f : Value) (positions : List Value) :
    (callPlain m f positions).Detached := by
  unfold callPlain
  infer_instance

instance detached_lacksArguments (n : Nat) (count : Value) : (lacksArguments n count).Detached := by
  unfold lacksArguments
  infer_instance

instance detached_deferCurried (c : Curried Value) : (deferCurried c).Detached := by
  unfold deferCurried
  infer_instance

instance detached_callCurried (m : Machine) [m.Detached] (c : Curried Value)
    (positions : List Value) (keywords : Keywords) :
    (callCurried m c positions keywords).Detached := by
  unfold callCurried Curried.call
  repeat' first | infer_instance | split

instance detached_deferTemplate (t : Template Value) : (deferTemplate t).Detached := by
  unfold deferTemplate
  infer_instance

instance detached_callTemplate (m : Machine) [m.Detached] (t : Template Value)
    (positions : List Value) (keywords : Keywords) :
    (callTemplate m t positions keywords).Detached := by
  unfold callTemplate Template.call
  infer_instance

instance detached_shareCombined (c : Combinator Value) (positions : List Value)
    (keywords : Keywords) : (shareCombined c positions keywords).Detached := by
  unfold shareCombined
  refine .bind inferInstance fun _ => ?_
  split <;> infer_instance

instance detached_filterSelected (m : Machine) [m.Detached] (f slice filter : Value)
    (positions : List Value) : (filterSelected m f slice filter positions).Detached := by
  unfold filterSelected
  infer_instance

instance detached_filterArgument (m : Machine) [m.Detached] (f index filter : Value)
    (positions : List Value) : (filterArgument m f index filter positions).Detached := by
  unfold filterArgument
  split <;> infer_instance

instance detached_filterWindow (m : Machine) [m.Detached] (f filter first last : Value)
    (positions : List Value) : (filterWindow m f filter first last positions).Detached := by
  unfold filterWindow
  refine .bind inferInstance fun _ => .bind inferInstance fun _ => ?_
  split <;> infer_instance

instance detached_callNamed (m : Machine) [m.Detached] (v name : Value) (positions : List Value) :
    (callNamed m v name positions).Detached := by
  unfold callNamed
  split <;> infer_instance

instance detached_pluckFrom (v name : Value) : (pluckFrom v name).Detached := by
  unfold pluckFrom
  repeat' first | infer_instance | split

instance detached_iterationStep (m : Machine) [m.Detached] (test f v : Value) :
    (iterationStep m test f v).Detached := by
  unfold iterationStep
  infer_instance

instance detached_iterateUntil (m : Machine) [m.Detached] (test f v : Value) :
    (iterateUntil m test f v).Detached := by
  unfold iterateUntil
  infer_instance

section Combinators

variable (call : Value → List Value → Run Value) [∀ f arguments, (call f arguments).Detached]

instance detached_callInSequence (nothing : Value) (fs arguments : List Value) :
    (callInSequence call nothing fs arguments).Detached := by
  induction fs generalizing arguments with
  | nil => exact Run.respects_pure _
  | cons f fs ih =>
    unfold callInSequence
    infer_instance

instance detached_callUncurried (f : Value) (arguments : List Value) :
    (callUncurried call f arguments).Detached := by
  unfold callUncurried
  infer_instance

instance detached_callOrFirst (nothing : Value) (part : Option Value) (arguments : List Value) :
    (callOrFirst call nothing part arguments).Detached := by
  unfold callOrFirst
  split <;> infer_instance

instance detached_callGuarded (nothing f : Value) (test fallback : Option Value)
    (arguments : List Value) :
    (callGuarded call truth nothing f test fallback arguments).Detached := by
  unfold callGuarded
  infer_instance

instance detached_callReturning (f receiver : Value) (more : List Value) :
    (callReturning call f receiver more).Detached := by
  unfold callReturning
  infer_instance

end Combinators

instance detached_callCombined (m : Machine) [m.Detached] (c : Combinator Value)
    (positions : List Value) (keywords : Keywords) :
    (callCombined m c positions keywords).Detached := by
  unfold callCombined
  refine .bind inferInstance fun shared => ?_
  cases c <;> infer_instance

instance detached_callStep (m : Machine) [m.Detached] (f : Value) (positions : List Value)
    (keywords : Keywords) : (callStep m f positions keywords).Detached := by
  unfold callStep
  split <;> infer_instance

/-! ### All levels -/

instance detached_machineAt (n : Nat) : (machineAt n).Detached := by
  induction n with
  | zero =>
    exact ⟨fun _ _ => Run.respects_diverge, fun _ _ => Run.respects_diverge,
      fun _ _ _ => Run.respects_diverge, fun _ => Run.respects_diverge⟩
  | succ n ih =>
    exact ⟨detached_exprStep (machineAt n), detached_blockStep (machineAt n),
      detached_callStep (machineAt n), detached_advanceStep (machineAt n)⟩

instance detached_machine : machine.Detached := detached_machineAt topLevel

end LambdaText
