import LambdaText.Proofs.Veiled.Scopes

/-!
# The evaluator apart from a hidden cell

The steps of the evaluator are apart from the hidden cell for any machine that is, as long as the
code that they run looks up in it only what is agreed on; so, by induction on the level, is the
machine that the library uses.
-/

namespace LambdaText

open LambdaText.Code LambdaText.Function LambdaText.Log
open Run (Apart)

variable {V : Veil} {c : Facts V}

variable (m : Machine) [m.Apart V]

/-! ### Items, entries and arguments -/

instance apart_spreadItems (v : Value) [Has c v] : Apart c (spreadItems m v) := by
  unfold spreadItems
  refine .using v ?_
  repeat' first | infer_instance | split | with_reducible refine .bind ?_ fun _ => ?_

instance apart_evalItems (scope : Scope) (items : List Expr) [Covered c scope (freeOfAll items)] :
    Apart c (evalItems m scope items) := by
  induction items generalizing c with
  | nil => exact Run.apart_pure _
  | cons e rest ih =>
    have hcovered : Covered c scope (e.free ++ freeOfAll rest) := ‹_›
    obtain ⟨he, hrest⟩ := covered_append.1 hcovered
    cases e with
    | star e =>
      have he : Covered c scope e.free := he
      unfold evalItems
      infer_instance
    | _ =>
      unfold evalItems
      infer_instance

instance apart_spreadEntries (v : Value) [Has c v] : Apart c (spreadEntries v) := by
  unfold spreadEntries
  refine .using v ?_
  split <;> infer_instance

instance apart_addChecked (entries : Array (Value × Value)) (more : List (Value × Value))
    [Has c entries] [Has c more] : Apart c (addChecked entries more) := by
  induction more generalizing entries c with
  | nil => exact Run.apart_pure _
  | cons e more ih =>
    obtain ⟨k, v⟩ := e
    unfold addChecked
    exact .using ((k, v) :: more) inferInstance

instance apart_evalEntries (scope : Scope) (entries : Array (Value × Value))
    (waiting : List (Value × Value)) (rest : List Entry) [Has c entries] [Has c waiting]
    [Covered c scope (freeOfEntries rest)] :
    Apart c (evalEntries m scope entries waiting rest) := by
  induction rest generalizing entries waiting c with
  | nil =>
    unfold evalEntries
    infer_instance
  | cons e rest ih =>
    cases e with
    | pair k v =>
      have hcovered : Covered c scope (k.free ++ v.free ++ freeOfEntries rest) := ‹_›
      obtain ⟨hpair, hrest⟩ := covered_append.1 hcovered
      obtain ⟨hk, hv⟩ := covered_append.1 hpair
      unfold evalEntries
      infer_instance
    | spread e =>
      have hcovered : Covered c scope (e.free ++ freeOfEntries rest) := ‹_›
      obtain ⟨he, hrest⟩ := covered_append.1 hcovered
      unfold evalEntries
      infer_instance

instance apart_evalPositions (scope : Scope) (arguments : List Argument)
    [Covered c scope (freeOfArguments arguments)] :
    Apart c (evalPositions m scope arguments) := by
  induction arguments generalizing c with
  | nil => exact Run.apart_pure _
  | cons a rest ih =>
    cases a with
    | positional e | star e | keyword _ e | spread e =>
      have hcovered : Covered c scope (e.free ++ freeOfArguments rest) := ‹_›
      obtain ⟨he, hrest⟩ := covered_append.1 hcovered
      unfold evalPositions
      infer_instance

instance apart_addKeyword (keywords : Keywords) (name : String) (v : Value) [Has c keywords]
    [Has c v] : Apart c (addKeyword keywords name v) := by
  unfold addKeyword
  infer_instance

instance apart_addSpread (keywords : Keywords) (entries : List (Value × Value)) [Has c keywords]
    [Has c entries] : Apart c (addSpread keywords entries) := by
  induction entries generalizing keywords c with
  | nil => exact Run.apart_pure _
  | cons e rest ih =>
    obtain ⟨k, v⟩ := e
    unfold addSpread
    refine .using ((k, v) :: rest) ?_
    split <;> infer_instance

instance apart_evalKeywords (scope : Scope) (keywords : Keywords) (arguments : List Argument)
    [Has c keywords] [Covered c scope (freeOfArguments arguments)] :
    Apart c (evalKeywords m scope keywords arguments) := by
  induction arguments generalizing keywords c with
  | nil => exact Run.apart_pure _
  | cons a rest ih =>
    cases a with
    | positional e | star e | keyword _ e | spread e =>
      have hcovered : Covered c scope (e.free ++ freeOfArguments rest) := ‹_›
      obtain ⟨he, hrest⟩ := covered_append.1 hcovered
      unfold evalKeywords
      infer_instance

instance apart_evalDefaults (scope : Scope) (parameters : List Parameter)
    [Covered c scope (freeOfDefaults parameters)] :
    Apart c (evalDefaults m scope parameters) := by
  induction parameters generalizing c with
  | nil => exact Run.apart_pure _
  | cons p rest ih =>
    obtain ⟨n, k, d⟩ := p
    have hcovered : Covered c scope (freeOfOption d ++ freeOfDefaults rest) := ‹_›
    obtain ⟨hd, hrest⟩ := covered_append.1 hcovered
    cases d with
    | none =>
      unfold evalDefaults
      infer_instance
    | some e =>
      have he : Covered c scope e.free := hd
      unfold evalDefaults
      infer_instance

/-! ### Assignment -/

instance apart_shareOut (v : Value) (before : Nat) (behind : Option Nat) [Has c v] :
    Apart c (shareOut m v before behind) := by
  unfold shareOut
  refine .using v ?_
  repeat' first | infer_instance | split | with_reducible refine .bind ?_ fun _ => ?_

mutual

theorem apart_assign (m : Machine) [m.Apart V] (c : Facts V) (scope : Scope) (target : Expr)
    (v : Value) [Covered c scope target.free] [Has c v] : Apart c (assign m scope target v) := by
  have hplaced : Covered c scope [] := covered_nil target.free
  cases target with
  | tuple targets | list targets =>
    have hcovered : Covered c scope (freeOfAll targets) := ‹_›
    unfold assign
    exact .bind inferInstance fun values => apart_assignRow m _ scope targets values
  | star t =>
    have hcovered : Covered c scope t.free := ‹_›
    unfold assign
    exact apart_assign m c scope t v
  | «attribute» o n =>
    have hcovered : Covered c scope o.free := ‹_›
    unfold assign
    infer_instance
  | subscript o i =>
    have hcovered : Covered c scope (o.free ++ i.free) := ‹_›
    obtain ⟨ho, hi⟩ := covered_append.1 hcovered
    unfold assign
    infer_instance
  | _ =>
    unfold assign
    infer_instance

theorem apart_assignRow (m : Machine) [m.Apart V] (c : Facts V) (scope : Scope)
    (targets : List Expr) (values : List Value) [Covered c scope (freeOfAll targets)] [Has c values] :
    Apart c (assignRow m scope targets values) := by
  cases targets with
  | nil =>
    unfold assignRow
    infer_instance
  | cons t targets =>
    have hcovered : Covered c scope (t.free ++ freeOfAll targets) := ‹_›
    obtain ⟨ht, hrest⟩ := covered_append.1 hcovered
    cases values with
    | nil =>
      unfold assignRow
      infer_instance
    | cons v values =>
      unfold assignRow
      refine .using (v :: values) ?_
      exact .bind (apart_assign m _ scope t v) fun _ => apart_assignRow m _ scope targets values

end

attribute [instance] apart_assign

mutual

theorem apart_delete (m : Machine) [m.Apart V] (c : Facts V) (scope : Scope) (target : Expr)
    [Foreign c scope] : Apart c (delete m scope target) := by
  cases target with
  | tuple targets | list targets =>
    unfold delete
    exact apart_deleteAll m c scope targets
  | _ =>
    unfold delete
    infer_instance

theorem apart_deleteAll (m : Machine) [m.Apart V] (c : Facts V) (scope : Scope)
    (targets : List Expr) [Foreign c scope] :
    Apart c (delete.deleteAll m scope targets) := by
  cases targets with
  | nil =>
    unfold delete.deleteAll
    infer_instance
  | cons t targets =>
    unfold delete.deleteAll
    exact .bind (apart_delete m c scope t) fun _ => apart_deleteAll m _ scope targets

end

attribute [instance] apart_delete

/-! ### Calls of functions -/

instance apart_bindKeywords (name : String) (parameters : List Parameter)
    (bound others rest : List (String × Value)) [Has c bound] [Has c others] [Has c rest] :
    Apart c (bindKeywords name parameters bound others rest) := by
  induction rest generalizing bound others c with
  | nil =>
    unfold bindKeywords
    infer_instance
  | cons e rest ih =>
    obtain ⟨k, v⟩ := e
    unfold bindKeywords
    exact .using ((k, v) :: rest) inferInstance

instance apart_bindArguments (name : String) (parameters : List Parameter)
    (defaults : List (String × Value)) (positions : List Value) (keywords : List (String × Value))
    [Has c defaults] [Has c positions] [Has c keywords] :
    Apart c (bindArguments name parameters defaults positions keywords) := by
  unfold bindArguments
  dsimp only
  repeat' first | infer_instance | split | with_reducible refine .bind ?_ fun _ => ?_

/-- The value of a body may be computed. -/
theorem covered_of_runnable {scope : Scope} {code : Routine} {e : Expr} (h : code.body = .value e)
    [hruns : Runnable c scope code] : Covered c scope e.free :=
  ⟨fun hc => by simpa only [h, Body.free] using (hruns.runs hc).1⟩

/-- A block runs only where the global names are not the hidden ones. -/
theorem foreign_of_runnable {scope : Scope} {code : Routine} {b : List Stmt}
    (h : code.body = .block b) [hruns : Runnable c scope code] : Foreign c scope := by
  have hne {W : World} (hc : c.holds W) : scope.globals ≠ V.cell := by
    intro hg
    obtain ⟨e, he⟩ := (hruns.runs hc).2.1 hg
    rw [h] at he
    cases he
  exact ⟨hne, fun hc => (hruns.runs hc).1.1.not_hides (hne hc)⟩

instance apart_runBody (scope : Scope) (code : Routine) [Runnable c scope code] :
    Apart c (runBody m scope code) := by
  unfold runBody
  split
  · next e hbody =>
    have hcovered : Covered c scope e.free := covered_of_runnable hbody
    infer_instance
  · next b hbody =>
    have hforeign : Foreign c scope := foreign_of_runnable hbody
    refine .bind inferInstance fun flow => ?_
    split <;> infer_instance

instance apart_invoke (code : Routine) (scope : Scope) (name : String)
    (defaults : List (String × Value)) (positions : List Value) (keywords : List (String × Value))
    [Admitted c scope code] [Has c defaults] [Has c positions] [Has c keywords] :
    Apart c (invoke m code scope name defaults positions keywords) := by
  unfold invoke
  refine .bind inferInstance fun values => Run.apart_enterFrame_bind fun a => ?_
  dsimp only
  infer_instance

/-! ### Comprehensions -/

instance apart_notAwaitable {α : Type} [Valued α] (v : Value) :
    Apart c (notAwaitable v : Run α) := by
  unfold notAwaitable
  infer_instance

instance apart_firstIterator (v : Value) (isAsync : Bool) [Has c v] :
    Apart c (firstIterator v isAsync) := by
  unfold firstIterator
  repeat' first | infer_instance | split

theorem free_comprehension_subset (item : Expr) (value : Option Expr) (clauses : List Clause) :
    item.free ++ freeOfOption value ++ (loopsOf clauses).flatMap Loop.free ⊆
      freeOfClauses clauses ++ item.free ++ freeOfOption value := by
  intro n hn
  simp only [List.mem_append, List.mem_flatMap] at hn ⊢
  rcases hn with (h | h) | ⟨l, hl, hn⟩
  · exact .inl (.inr h)
  · exact .inr h
  · exact .inl (.inl (free_subset_of_mem_loopsOf hl hn))

/-- A comprehension runs in a frame that lists the names of its loops. -/
instance covered_comprehensionFrame (scope : Scope) (item : Expr) (value : Option Expr)
    (clauses : List Clause) (a : Nat) (path : String)
    [Covered c scope
      (without (freeOfClauses clauses ++ item.free ++ freeOfOption value) (loopNamesOf clauses))] :
    Covered (c.entered { slots := ((Source.firstOccurrences (loopNamesOf clauses)).map
        fun n => (n, none)).toArray } a) ⟨a :: scope.frames, scope.globals, path⟩
      (item.free ++ freeOfOption value ++ (loopsOf clauses).flatMap Loop.free) := by
  have hknown : ({ slots := ((Source.firstOccurrences (loopNamesOf clauses)).map
      fun n => (n, none)).toArray } : Frame).known? =
        some (Source.firstOccurrences (loopNamesOf clauses)) := by
    simp [Frame.known?, Function.comp_def]
  have hsubset : without (item.free ++ freeOfOption value ++ (loopsOf clauses).flatMap Loop.free)
        (Source.firstOccurrences (loopNamesOf clauses)) ⊆
      without (freeOfClauses clauses ++ item.free ++ freeOfOption value) (loopNamesOf clauses) := by
    intro n hn
    rw [mem_without, Source.mem_firstOccurrences] at hn
    exact mem_without.2 ⟨free_comprehension_subset item value clauses hn.1, hn.2⟩
  have houter : Covered c scope _ := covered_of_subset hsubset
  exact covered_entered hknown

instance apart_comprehensionIterator (scope : Scope) (kind : Comprehended) (item : Expr)
    (value : Option Expr) (clauses : List Clause)
    [hcovered : Covered c scope (Expr.comprehension kind item value clauses).free] :
    Apart c (comprehensionIterator m scope kind item value clauses) := by
  rw [Expr.free] at hcovered
  obtain ⟨hfirst, hinner⟩ := covered_append.1 hcovered
  unfold comprehensionIterator
  split
  · next first rest target sequence isAsync clauses' hloops =>
    have hsequence : first.sequence = sequence := by
      have hloops := hloops
      rw [loopsOf] at hloops
      rw [← (List.cons.inj hloops).1]
    have hfirst : Covered c scope first.sequence.free := hsequence ▸ hfirst
    refine .bind inferInstance fun v => .bind inferInstance fun it =>
      Run.apart_enterFrame_bind fun a => ?_
    dsimp only
    rw [← hloops]
    have (d : Facts V) [Knows d c] : Covered d scope (without
        (freeOfClauses (.loop target sequence isAsync :: clauses') ++ item.free ++
          freeOfOption value) (loopNamesOf (.loop target sequence isAsync :: clauses'))) :=
      ⟨fun hc => hinner.covers (Knows.le hc)⟩
    infer_instance
  · infer_instance

instance apart_addComprehended (entries : Array (Value × Value)) (v : Value) [Has c entries]
    [Has c v] : Apart c (addComprehended entries v) := by
  unfold addComprehended
  refine .using v ?_
  split
  next k e heq =>
    have hentry : Has (c.and v) (k, e) := by
      rw [← heq]
      split <;> infer_instance
    exact .using (k, e) inferInstance

instance apart_comprehend (scope : Scope) (kind : Comprehended) (item : Expr)
    (value : Option Expr) (clauses : List Clause)
    [Covered c scope (Expr.comprehension kind item value clauses).free] :
    Apart c (comprehend m scope kind item value clauses) := by
  unfold comprehend
  split <;> infer_instance

/-! ### Expressions -/

instance has_constantValue? (k : Constant) : Has c (constantValue? k) := by
  unfold constantValue?
  split <;> infer_instance

instance apart_converted (conversion : Conversion) (v : Value) [Has c v] :
    Apart c (converted conversion v) := by
  unfold converted
  split <;> infer_instance

instance apart_templateText (scope : Scope) (pieces : List Piece)
    [Covered c scope (freeOfPieces pieces)] : Apart c (templateText m scope pieces) := by
  fun_induction templateText m scope pieces generalizing c with
  | case1 => infer_instance
  | case2 s rest ih =>
    have hrest : Covered c scope (freeOfPieces rest) := ‹_›
    infer_instance
  | case3 e conversion format rest ihformat ihrest =>
    have hcovered : Covered c scope (e.free ++ freeOfPieces format ++ freeOfPieces rest) := ‹_›
    obtain ⟨hfield, hrest⟩ := covered_append.1 hcovered
    obtain ⟨he, hformat⟩ := covered_append.1 hfield
    infer_instance

instance apart_compareValues (op : CompareOp) (a b : Value) [Has c a] [Has c b] :
    Apart c (compareValues m op a b) := by
  unfold compareValues
  split <;> infer_instance

instance apart_compareChain (scope : Scope) (a : Value) (rest : List Comparand) [Has c a]
    [Covered c scope (freeOfComparands rest)] : Apart c (compareChain m scope a rest) := by
  induction rest generalizing a c with
  | nil => exact Run.apart_pure _
  | cons e rest ih =>
    obtain ⟨op, e⟩ := e
    have hcovered : Covered c scope (e.free ++ freeOfComparands rest) := ‹_›
    obtain ⟨he, hrest⟩ := covered_append.1 hcovered
    unfold compareChain
    infer_instance

instance apart_connect (scope : Scope) (conjunction : Bool) (operands : List Expr)
    [Covered c scope (freeOfAll operands)] : Apart c (connect m scope conjunction operands) := by
  induction operands generalizing c with
  | nil => exact Run.apart_pure _
  | cons e rest ih =>
    have hcovered : Covered c scope (e.free ++ freeOfAll rest) := ‹_›
    obtain ⟨he, hrest⟩ := covered_append.1 hcovered
    cases rest with
    | nil => exact Machine.Apart.expr c scope e
    | cons e' rest =>
      unfold connect
      infer_instance

instance apart_evalOption (scope : Scope) (e : Option Expr) [Covered c scope (freeOfOption e)] :
    Apart c (evalOption m scope e) := by
  cases e with
  | none => exact Run.apart_pure _
  | some e =>
    have hcovered : Covered c scope e.free := ‹_›
    exact Machine.Apart.expr c scope e

instance apart_callIn (scope : Scope) (f : Value) (positions : List Value) (keywords : Keywords)
    [Has c f] [Has c positions] [Has c keywords] :
    Apart c (callIn m scope f positions keywords) := by
  unfold callIn
  split <;> infer_instance

instance apart_evalCall (scope : Scope) (function : Expr) (arguments : List Argument)
    [Covered c scope function.free] [Covered c scope (freeOfArguments arguments)] :
    Apart c (evalCall m scope function arguments) := by
  unfold evalCall
  infer_instance

instance apart_exprStep (scope : Scope) (e : Expr) [hcovered : Covered c scope e.free] :
    Apart c (exprStep m scope e) := by
  have hplaced : Covered c scope [] := covered_nil e.free
  cases e <;> rw [Expr.free] at hcovered
  all_goals unfold exprStep
  case constant k =>
    dsimp only
    split
    · exact .of_eq_some ‹_ = some _› inferInstance
    · infer_instance
  case binary op a b =>
    obtain ⟨ha, hb⟩ := covered_append.1 hcovered
    infer_instance
  case comparison e rest =>
    obtain ⟨he, hrest⟩ := covered_append.1 hcovered
    infer_instance
  case conditional test yes no =>
    obtain ⟨hboth, hno⟩ := covered_append.1 hcovered
    obtain ⟨htest, hyes⟩ := covered_append.1 hboth
    infer_instance
  case subscript e i =>
    obtain ⟨he, hi⟩ := covered_append.1 hcovered
    infer_instance
  case slice a b step =>
    obtain ⟨hboth, hstep⟩ := covered_append.1 hcovered
    obtain ⟨ha, hb⟩ := covered_append.1 hboth
    infer_instance
  case call f arguments =>
    obtain ⟨hf, harguments⟩ := covered_append.1 hcovered
    infer_instance
  case lambda parameters body =>
    obtain ⟨hdefaults, hbody⟩ := covered_append.1 hcovered
    have hadmitted : Admitted c scope (lambdaRoutine parameters body) := admitted_lambda
    infer_instance
  case comprehension kind item value clauses =>
    have hcovered : Covered c scope (Expr.comprehension kind item value clauses).free := by
      rwa [Expr.free]
    infer_instance
  case yieldFrom e =>
    have hitem (d : Facts V) [Covered d scope []] (v : Value) [Has d v] : Apart d (do
        yieldItem scope v
        return .inl () : Run (Unit ⊕ Value)) := inferInstance
    infer_instance
  all_goals infer_instance

/-! ### Statements -/

instance apart_operateInPlace (op : BinaryOp) (a b : Value) [Has c a] [Has c b] :
    Apart c (operateInPlace m op a b) := by
  unfold operateInPlace
  refine .using a (.using b ?_)
  repeat' first | infer_instance | split | with_reducible refine .bind ?_ fun _ => ?_

instance has_done : Has c Flow.done := ⟨fun _ => trivial⟩

instance has_leave : Has c Flow.leave := ⟨fun _ => trivial⟩

instance has_next : Has c Flow.next := ⟨fun _ => trivial⟩

instance has_give (v : Value) [Has c v] : Has c (Flow.give v) := Has.imp (a := v) fun _ h => h

section Foreign

variable (scope : Scope) [Foreign c scope]

instance apart_augment (target : Expr) (op : BinaryOp) (e : Expr) :
    Apart c (augment m scope target op e) := by
  unfold augment
  split <;> infer_instance

instance apart_touchTarget (target : Expr) : Apart c (touchTarget m scope target) := by
  unfold touchTarget
  split <;> infer_instance

instance apart_assignAll (v : Value) (targets : List Expr) [Has c v] :
    Apart c (assignAll m scope v targets) := by
  induction targets generalizing c with
  | nil => exact Run.apart_pure _
  | cons t rest ih =>
    unfold assignAll
    infer_instance

instance apart_errorOf (message : String) (v : Value) [Has c v] :
    Apart c (errorOf m message v) := by
  unfold errorOf
  split <;> infer_instance

instance apart_raiseValue (value cause : Option Expr) :
    Apart c (raiseValue m scope value cause) := by
  unfold raiseValue
  cases value with
  | none =>
    refine Run.apart_get_bind (fun s => ?_) fun {s s'} h _ => ⟨by rw [h.rest], ?_⟩
    · split
      · exact Run.staysLost_of_ends fun _ => rfl
      · exact Run.staysLost _
    have hhandled := h.shows.handled
    split
    · next e rest heq => exact .same h (.refl _) (hhandled e (heq ▸ List.mem_cons_self))
    · exact (Run.apart_raise (c := (default : Facts V)) _ _).ends h trivial
  | some e =>
    dsimp only
    repeat' first | infer_instance | split | with_reducible refine .bind ?_ fun _ => ?_

instance apart_takesError (error v : Value) : Apart c (takesError error v) := by
  unfold takesError takesError.badHandler
  split <;> infer_instance

instance apart_attempted {α : Type} [Valued α] (r : Run α) [Apart c r] :
    Apart c (attempted r) := by
  unfold attempted
  infer_instance

instance apart_resume {α : Type} [Valued α] (result : Except Value α) [Has c result] :
    Apart c (resume result) := by
  unfold resume
  refine .using result ?_
  split <;> infer_instance

instance apart_whileHandling {α : Type} [Valued α] (error : Value) (r : Run α) [Has c error]
    [Apart c r] : Apart c (whileHandling error r) := by
  have hmodify (d : Facts V) (handled : List Value) [Has d handled] :
      Apart d (modify fun s => { s with handled } : Run PUnit) :=
    Run.apart_modify (fun _ h => h) (fun _ _ _ _ _ => rfl)
      fun s hd h => h.keep rfl rfl rfl (Has.clear hd)
  have (d : Facts V) [Knows d c] : Apart d r := .of_knows ‹Apart c r›
  have hrun (handled : List Value) : Apart (c.and handled) (do
      modify fun t => { t with handled := error :: handled }
      let result ← attempted r
      modify fun t => { t with handled }
      resume result) :=
    .bind (hmodify _ _) fun _ => .bind inferInstance fun _ => .bind (hmodify _ _) fun _ =>
      inferInstance
  refine Run.apart_get_bind (fun s => (hrun s.handled).stays)
    fun {s s'} h hc => ⟨by rw [h.rest], ?_⟩
  exact (hrun s.handled).ends h ⟨hc, h.shows.handled⟩

instance apart_runHandler (error : Value) (name : Option String) (body : List Stmt)
    [Has c error] : Apart c (runHandler m scope error name body) := by
  unfold runHandler
  split <;> infer_instance

instance apart_handleError (error : Value) (handlers : List Handler) [Has c error] :
    Apart c (handleError m scope error handlers) := by
  fun_induction handleError m scope error handlers generalizing c <;> infer_instance

instance apart_runGuarded (body : List Stmt) (handlers : List Handler) (otherwise : List Stmt) :
    Apart c (runGuarded m scope body handlers otherwise) := by
  unfold runGuarded
  refine .bind inferInstance fun _ => ?_
  split <;> infer_instance

instance apart_runFinally (result : Except Value Flow) (final : List Stmt) [Has c result] :
    Apart c (runFinally m scope result final) := by
  unfold runFinally
  refine .using result ?_
  dsimp only
  repeat' first | infer_instance | split | with_reducible refine .bind ?_ fun _ => ?_

instance has_afterBody {σ : Type} [Valued σ] (s : σ) (flow : Flow) [Has c s] [Has c flow] :
    Has c (afterBody s flow) := by
  unfold afterBody
  refine .using flow ?_
  split <;> infer_instance

instance apart_runWhile (test : Expr) (body otherwise : List Stmt) :
    Apart c (runWhile m scope test body otherwise) := by
  unfold runWhile
  infer_instance

instance apart_runFor (target sequence : Expr) (body otherwise : List Stmt) :
    Apart c (runFor m scope target sequence body otherwise) := by
  have hstep (d : Facts V) [Foreign d scope] (v : Value) [Has d v] : Apart d (do
      assign m scope target v
      return afterBody () (← m.block scope body)) := inferInstance
  unfold runFor
  infer_instance

instance apart_touchAll (hints : List Expr) : Apart c (touchAll m scope hints) := by
  induction hints generalizing c with
  | nil => exact Run.apart_pure _
  | cons e rest ih =>
    unfold touchAll
    infer_instance

instance apart_stmtStep (s : Stmt) : Apart c (stmtStep m scope s) := by
  unfold stmtStep
  repeat' first | infer_instance | split

instance apart_blockStep (statements : List Stmt) : Apart c (blockStep m scope statements) := by
  induction statements generalizing c with
  | nil => exact Run.apart_pure _
  | cons s rest ih =>
    unfold blockStep
    refine .bind inferInstance fun flow => ?_
    split <;> infer_instance

end Foreign

/-! ### Iterators -/

instance apart_proceed (address : Nat) (i : Iterator) (v : Value) [Away c address] [Has c i]
    [Has c v] : Apart c (proceed address i v) := by
  unfold proceed
  infer_instance

instance apart_finish (address : Nat) [Away c address] : Apart c (finish address) := by
  unfold finish
  infer_instance

instance apart_nextRow (sources : List Value) [Has c sources] : Apart c (nextRow m sources) := by
  induction sources generalizing c with
  | nil => exact Run.apart_pure _
  | cons it rest ih =>
    unfold nextRow
    refine .using (it :: rest) (.bind inferInstance fun v => ?_)
    split <;> infer_instance

instance apart_allEnded (sources : List Value) [Has c sources] :
    Apart c (allEnded m sources) := by
  induction sources generalizing c with
  | nil => exact Run.apart_pure _
  | cons it rest ih =>
    unfold allEnded
    refine .using (it :: rest) (.bind inferInstance fun v => ?_)
    split <;> infer_instance

instance apart_checkRow (strict : Bool) (sources : List Value) (i : Nat) (rest : List Value)
    [Has c rest] : Apart c (checkRow m strict sources i rest) := by
  induction rest generalizing i c with
  | nil => exact Run.apart_pure _
  | cons it rest ih =>
    unfold checkRow
    refine .using (it :: rest) (.bind inferInstance fun v => ?_)
    repeat' first | infer_instance | split

instance apart_allHold (scope : Scope) (conditions : List Expr)
    [Covered c scope (freeOfAll conditions)] : Apart c (allHold m scope conditions) := by
  induction conditions generalizing c with
  | nil => exact Run.apart_pure _
  | cons e rest ih =>
    have hcovered : Covered c scope (e.free ++ freeOfAll rest) := ‹_›
    obtain ⟨he, hrest⟩ := covered_append.1 hcovered
    unfold allHold
    infer_instance

instance apart_comprehendedItem (scope : Scope) (item : Expr) (value : Option Expr)
    [Covered c scope item.free] [hvalue : Covered c scope (freeOfOption value)] :
    Apart c (comprehendedItem m scope item value) := by
  unfold comprehendedItem
  refine .bind inferInstance fun _ => ?_
  cases value with
  | none => infer_instance
  | some e =>
    have hcovered : Covered c scope e.free := hvalue
    infer_instance

/-- Every loop of a comprehension may look its names up. -/
theorem covered_loop {scope : Scope} {loops : List Loop} {l : Loop} (h : l ∈ loops)
    [Covered c scope (loops.flatMap Loop.free)] : Covered c scope l.free :=
  covered_of_subset fun _ hn => List.mem_flatMap.2 ⟨l, h, hn⟩

instance apart_comprehensionStep (address : Nat) (scope : Scope) (item : Expr)
    (value : Option Expr) (loops : List Loop) (opened : List Value) [Away c address]
    [hcovered : Covered c scope (item.free ++ freeOfOption value ++ loops.flatMap Loop.free)]
    [Has c opened] : Apart c (comprehensionStep m address scope item value loops opened) := by
  obtain ⟨hparts, hloops⟩ := covered_append.1 hcovered
  obtain ⟨hitem, hvalue⟩ := covered_append.1 hparts
  have hparts (l : Loop) (h : l ∈ loops) : Covered c scope l.target.free ∧
      Covered c scope l.sequence.free ∧ Covered c scope (freeOfAll l.conditions) := by
    have hl : Covered c scope (l.target.free ++ l.sequence.free ++ freeOfAll l.conditions) :=
      covered_loop h
    obtain ⟨hboth, hconditions⟩ := covered_append.1 hl
    exact ⟨(covered_append.1 hboth).1, (covered_append.1 hboth).2, hconditions⟩
  unfold comprehensionStep
  cases opened with
  | nil => infer_instance
  | cons it outer =>
    dsimp only
    refine .using (it :: outer) (.bind inferInstance fun v => ?_)
    split
    · next l v hl =>
      obtain ⟨htarget, -, hconditions⟩ := hparts l (List.mem_of_getElem? hl)
      refine .bind inferInstance fun _ => .bind inferInstance fun _ => ?_
      split
      · infer_instance
      · split
        · next inner hinner =>
          obtain ⟨-, hsequence, -⟩ := hparts inner (List.mem_of_getElem? hinner)
          infer_instance
        · infer_instance
    · infer_instance

instance has_leavingError (error : Value) [Has c error] : Has c (leavingError error) := by
  unfold leavingError
  split <;> infer_instance

instance apart_advanceComprehension (address : Nat) (scope : Scope) (item : Expr)
    (value : Option Expr) (loops : List Loop) (opened : List Value) [Away c address]
    [Covered c scope (item.free ++ freeOfOption value ++ loops.flatMap Loop.free)]
    [Has c opened] :
    Apart c (advanceComprehension m address scope item value loops opened) := by
  unfold advanceComprehension
  infer_instance

instance apart_startRoutine (address : Nat) (scope : Scope) (code : Routine) [Away c address]
    [hruns : Runnable c scope code] : Apart c (startRoutine m address scope code) := by
  have hbody : Apart c (do
      match code.body with
      | .value e => let _ ← m.expr scope e
      | .block b => let _ ← m.block scope b
      return none : Run (Option Value)) := by
    split
    · next e hbody =>
      have hcovered : Covered c scope e.free := covered_of_runnable hbody
      infer_instance
    · next b hbody =>
      have hforeign : Foreign c scope := foreign_of_runnable hbody
      infer_instance
  have hleft (d : Facts V) (result : Option Value) (items : List Value) [Has d result]
      [Has d items] : Has d (match result with
        | some error => Iterator.failing items (leavingError error)
        | none => .items items) := by
    refine .using result ?_
    split <;> infer_instance
  unfold startRoutine
  refine .bind inferInstance fun result => ?_
  dsimp only
  split
  · next a rest hframes =>
    have hshown {W : World} (hc : c.holds W) : ¬ V.Hides a :=
      (hruns.runs hc).2.2 a (by rw [hframes, List.head?_cons]; rfl)
    refine .bind (Run.apart_frame fun hc => hshown hc.1) fun f => ?_
    infer_instance
  · infer_instance

instance apart_advanceFilter (test source : Value) [Has c test] [Has c source] :
    Apart c (advanceFilter m test source) := by
  unfold advanceFilter
  split <;> infer_instance

instance apart_advanceStep (address : Nat) [Away c address] :
    Apart c (advanceStep m address) := by
  unfold advanceStep
  refine .bind inferInstance fun cell => .using cell ?_
  dsimp only
  split
  all_goals
    refine .bind inferInstance fun state => .using state ?_
    repeat' first | infer_instance | split | with_reducible refine .bind ?_ fun _ => ?_ |
      exact .of_eq_some ‹_ = some _› inferInstance

/-! ### Combined functions -/

instance apart_callPlain (f : Value) (positions : List Value) [Has c f] [Has c positions] :
    Apart c (callPlain m f positions) := by
  unfold callPlain
  infer_instance

instance apart_lacksArguments (n : Nat) (count : Value) [Has c count] :
    Apart c (lacksArguments n count) := by
  unfold lacksArguments
  infer_instance

instance apart_deferCurried (function right : Value) (held : List Value) (count : Option Value)
    [Has c function] [Has c held] [Has c count] [Has c right] :
    Apart c (deferCurried ⟨function, held, count, right⟩) := by
  unfold deferCurried
  infer_instance

instance apart_callCurried (f : Curried Value) (positions : List Value) (keywords : Keywords)
    [Has c f.function] [Has c f.right] [Has c f.held] [Has c f.count] [Has c positions] :
    Apart c (callCurried m f positions keywords) := by
  unfold callCurried Curried.call
  refine .bind inferInstance fun _ => .bind inferInstance fun _ => ?_
  dsimp only
  split
  · exact .of_eq_some ‹f.count = some _› inferInstance
  · infer_instance

instance apart_deferTemplate (function : Value) (items : List Value) [Has c function]
    [Has c items] : Apart c (deferTemplate ⟨function, items⟩) := by
  unfold deferTemplate
  infer_instance

instance apart_callTemplate (t : Template Value) (positions : List Value) (keywords : Keywords)
    [Has c t.function] [Has c t.items] [Has c positions] :
    Apart c (callTemplate m t positions keywords) := by
  unfold callTemplate Template.call
  infer_instance

instance apart_shareCombined (f : Combinator Value) (positions : List Value)
    (keywords : Keywords) [Has c positions] [Has c keywords] :
    Apart c (shareCombined f positions keywords) := by
  unfold shareCombined
  refine .bind inferInstance fun values => ?_
  dsimp only
  split
  · next more hmore => exact .of_eq_some hmore inferInstance
  · infer_instance

instance apart_filterSelected (f slice filter : Value) (positions : List Value) [Has c f]
    [Has c slice] [Has c filter] [Has c positions] :
    Apart c (filterSelected m f slice filter positions) := by
  unfold filterSelected
  infer_instance

instance apart_filterArgument (f index filter : Value) (positions : List Value) [Has c f]
    [Has c index] [Has c filter] [Has c positions] :
    Apart c (filterArgument m f index filter positions) := by
  unfold filterArgument
  split <;> infer_instance

instance apart_filterWindow (f filter first last : Value) (positions : List Value) [Has c f]
    [Has c filter] [Has c first] [Has c last] [Has c positions] :
    Apart c (filterWindow m f filter first last positions) := by
  unfold filterWindow
  refine .bind inferInstance fun _ => .bind inferInstance fun v => ?_
  dsimp only
  refine .using v ?_
  split <;> infer_instance

instance apart_callNamed (v name : Value) (positions : List Value) [Has c v] [Has c positions] :
    Apart c (callNamed m v name positions) := by
  unfold callNamed
  split <;> infer_instance

instance apart_pluckFrom (v name : Value) [Has c v] [Has c name] : Apart c (pluckFrom v name) := by
  unfold pluckFrom
  repeat' first | infer_instance | split

instance apart_iterationStep (test f v : Value) [Has c test] [Has c f] [Has c v] :
    Apart c (iterationStep m test f v) := by
  unfold iterationStep
  infer_instance

instance apart_iterateUntil (test f v : Value) [Has c test] [Has c f] [Has c v] :
    Apart c (iterateUntil m test f v) := by
  unfold iterateUntil
  infer_instance

instance apart_callInSequence (nothing : Value) (fs arguments : List Value) [Has c nothing]
    [Has c fs] [Has c arguments] :
    Apart c (callInSequence (callPlain m) nothing fs arguments) := by
  induction fs generalizing arguments c with
  | nil => exact Run.apart_pure _
  | cons f fs ih =>
    unfold callInSequence
    exact .using (f :: fs) inferInstance

instance apart_callUncurried (f : Value) (arguments : List Value) [Has c f] [Has c arguments] :
    Apart c (callUncurried (callPlain m) f arguments) := by
  unfold callUncurried
  infer_instance

instance apart_callOrFirst (nothing : Value) (part : Option Value) (arguments : List Value)
    [Has c nothing] [Has c part] [Has c arguments] :
    Apart c (callOrFirst (callPlain m) nothing part arguments) := by
  unfold callOrFirst
  refine .using part ?_
  split <;> infer_instance

instance apart_callGuarded (nothing f : Value) (test fallback : Option Value)
    (arguments : List Value) [Has c nothing] [Has c f] [Has c test] [Has c fallback]
    [Has c arguments] :
    Apart c (callGuarded (callPlain m) truth nothing f test fallback arguments) := by
  unfold callGuarded
  infer_instance

instance apart_callReturning (f receiver : Value) (more : List Value) [Has c f] [Has c receiver]
    [Has c more] : Apart c (callReturning (callPlain m) f receiver more) := by
  unfold callReturning
  infer_instance

instance apart_callCombined (f : Combinator Value) (positions : List Value) (keywords : Keywords)
    [Has c (combinedParts f)] [Has c positions] [Has c keywords] :
    Apart c (callCombined m f positions keywords) := by
  unfold callCombined
  refine .bind inferInstance fun shared => ?_
  obtain ⟨demanded, more⟩ := shared
  dsimp only
  refine .using (demanded, more) (.using (combinedParts f) ?_)
  cases f <;> (dsimp only [combinedParts]; infer_instance)

instance apart_callStep (f : Value) (positions : List Value) (keywords : Keywords) [Has c f]
    [Has c positions] [Has c keywords] : Apart c (callStep m f positions keywords) := by
  unfold callStep
  refine .using f ?_
  split <;> infer_instance

/-! ### All levels -/

instance apart_machineAt (n : Nat) : (machineAt n).Apart V := by
  induction n with
  | zero =>
    exact ⟨fun _ _ _ => Run.apart_diverge, fun _ _ _ => Run.apart_diverge,
      fun _ _ _ _ => Run.apart_diverge, fun _ _ => Run.apart_diverge⟩
  | succ n ih =>
    exact ⟨fun _ => apart_exprStep (machineAt n),
      fun _ scope b _ => apart_blockStep (machineAt n) scope b,
      fun _ => apart_callStep (machineAt n), fun _ => apart_advanceStep (machineAt n)⟩

instance apart_machine : machine.Apart V := apart_machineAt topLevel

end LambdaText
