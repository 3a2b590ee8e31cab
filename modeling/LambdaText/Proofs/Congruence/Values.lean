import LambdaText.Eval.Arguments
import LambdaText.Eval.Invoke
import LambdaText.Library.Operation
import LambdaText.Proofs.Congruence.Basic

/-!
# Operations on values are made of local steps

Writing, comparing and formatting values, arithmetic, items, names, arguments and data: all of this
is related to itself by every congruence.
-/

namespace LambdaText

open LambdaText.Code LambdaText.Function LambdaText.Number LambdaText.Text
open Run (Related Respects)

variable {R : Run.Relation} [Run.Congruence R]

/-! ### Written forms -/

instance respects_integerText (i : Int) : Respects R (integerText i) := by
  unfold integerText
  infer_instance

instance respects_truth (v : Value) : Respects R (truth v) := by
  unfold truth
  split <;> infer_instance

instance respects_shownWithin (n : Nat) (active : List Nat) (v : Value) :
    Respects R (shownWithin n active v) := by
  induction n generalizing active v with
  | zero => exact Run.respects_raise _ _
  | succ n ih =>
    unfold shownWithin
    repeat' first | infer_instance | split | with_reducible refine .bind ?_ fun _ => ?_

instance respects_shown (v : Value) : Respects R (shown v) := by
  unfold shown
  infer_instance

instance respects_plain (v : Value) : Respects R (plain v) := by
  unfold plain
  repeat' first | infer_instance | split

/-! ### Comparisons -/

instance respects_rowsEqual (eq : Value → Value → Run Bool) [∀ a b, Respects R (eq a b)]
    (as bs : List Value) : Respects R (rowsEqual eq as bs) := by
  induction as generalizing bs with
  | nil => cases bs <;> exact Run.respects_pure _
  | cons a as ih =>
    cases bs with
    | nil => exact Run.respects_pure _
    | cons b bs =>
      unfold rowsEqual
      infer_instance

instance respects_entriesEqual (eq : Value → Value → Run Bool) [∀ a b, Respects R (eq a b)]
    (others : Array (Value × Value)) (entries : List (Value × Value)) :
    Respects R (entriesEqual eq others entries) := by
  induction entries with
  | nil => exact Run.respects_pure _
  | cons e entries ih =>
    unfold entriesEqual
    split <;> infer_instance

instance respects_equalWithin (n : Nat) (a b : Value) : Respects R (equalWithin n a b) := by
  induction n generalizing a b with
  | zero => exact Run.respects_raise _ _
  | succ n ih =>
    unfold equalWithin
    repeat' first | infer_instance | split

instance respects_equal (a b : Value) : Respects R (equal a b) := by
  unfold equal
  infer_instance

instance respects_matches_ (a b : Value) : Respects R (matches_ a b) := by
  unfold matches_
  infer_instance

instance respects_firstDifference (as bs : List Value) : Respects R (firstDifference as bs) := by
  induction as generalizing bs with
  | nil => exact Run.respects_pure _
  | cons a as ih =>
    cases bs with
    | nil => exact Run.respects_pure _
    | cons b bs =>
      unfold firstDifference
      infer_instance

instance respects_noOrder {α : Type} (op : CompareOp) (a b : Value) :
    Respects R (noOrder op a b : Run α) := by
  unfold noOrder
  infer_instance

instance respects_orderedWithin (n : Nat) (op : CompareOp) (a b : Value) :
    Respects R (orderedWithin n op a b) := by
  induction n generalizing a b with
  | zero => exact Run.respects_raise _ _
  | succ n ih =>
    unfold orderedWithin
    repeat' first | infer_instance | split | with_reducible refine .bind ?_ fun _ => ?_

instance respects_ordered (op : CompareOp) (a b : Value) : Respects R (ordered op a b) := by
  unfold ordered
  infer_instance

instance respects_mergeSorted (n : Nat) (as bs : List (Value × Value)) :
    Respects R (mergeSorted n as bs) := by
  induction n generalizing as bs with
  | zero => exact Run.respects_pure _
  | succ n ih =>
    cases as with
    | nil => exact Run.respects_pure _
    | cons a as =>
      cases bs with
      | nil => exact Run.respects_pure _
      | cons b bs =>
        unfold mergeSorted
        infer_instance

instance respects_sortWithin (n : Nat) (items : List (Value × Value)) :
    Respects R (sortWithin n items) := by
  induction n generalizing items with
  | zero => exact Run.respects_pure _
  | succ n ih =>
    unfold sortWithin
    infer_instance

instance respects_sortKeyed (backwards : Bool) (items : List (Value × Value)) :
    Respects R (sortKeyed backwards items) := by
  unfold sortKeyed
  infer_instance

/-! ### Numbers -/

instance respects_unsupported {α : Type} (op : BinaryOp) (a b : Value) :
    Respects R (unsupported op a b : Run α) := by
  unfold unsupported
  infer_instance

instance respects_divisionByZero {α : Type} (message : String) :
    Respects R (divisionByZero message : Run α) := by
  unfold divisionByZero
  infer_instance

instance respects_toFloat (i : Int) : Respects R (toFloat i) := by
  unfold toFloat
  infer_instance

instance respects_divideInts (a b : Int) : Respects R (divideInts a b) := by
  unfold divideInts
  infer_instance

instance respects_powerFloats (x y : Float) : Respects R (powerFloats x y) := by
  unfold powerFloats
  repeat' first | infer_instance | split

instance respects_powerInts (a b : Int) : Respects R (powerInts a b) := by
  unfold powerInts
  infer_instance

instance respects_shiftInts (a b : Int) : Respects R (shiftInts a b) := by
  unfold shiftInts
  infer_instance

instance respects_intOperator (op : BinaryOp) (a b : Int) : Respects R (intOperator op a b) := by
  unfold intOperator
  split <;> infer_instance

instance respects_floatOperator (op : BinaryOp) (x y : Float) :
    Respects R (floatOperator op x y) := by
  unfold floatOperator
  split <;> infer_instance

instance respects_complexOperator (op : BinaryOp) (a b : ComplexFloat) :
    Respects R (complexOperator op a b) := by
  unfold complexOperator
  repeat' first | infer_instance | split

instance Amount.respects_toFloat (a : Amount) : Respects R a.toFloat := by
  cases a with
  | int i => exact LambdaText.respects_toFloat i
  | float x => exact Run.respects_pure x
  | complex re im => exact Run.respects_raise _ _

instance Amount.respects_toComplex (a : Amount) : Respects R a.toComplex := by
  cases a with
  | int i => exact .bind (LambdaText.respects_toFloat i) fun _ => inferInstance
  | float x => exact Run.respects_pure _
  | complex re im => exact Run.respects_pure _

instance respects_numberOperator (op : BinaryOp) (a b : Value) (m n : Amount) :
    Respects R (numberOperator op a b m n) := by
  unfold numberOperator
  repeat' first | infer_instance | split

instance respects_repetition (size : Nat) (times : Int) : Respects R (repetition size times) := by
  unfold repetition
  infer_instance

instance respects_repeated (v : Value) (times : Int) : Respects R (repeated v times) := by
  unfold repeated
  split <;> infer_instance

instance respects_setOperator (op : BinaryOp) (a b : Value) (as bs : Array Value) :
    Respects R (setOperator op a b as bs) := by
  unfold setOperator
  split <;> infer_instance

instance respects_repeatOperands (a b : Value) : Respects R (repeatOperands a b) := by
  unfold repeatOperands
  repeat' first | infer_instance | split

instance respects_joinOperands (a b : Value) : Respects R (joinOperands a b) := by
  unfold joinOperands
  split <;> infer_instance

instance respects_operate (op : BinaryOp) (a b : Value) : Respects R (operate op a b) := by
  unfold operate
  repeat' first | infer_instance | split

instance respects_operateUnary (op : UnaryOp) (v : Value) : Respects R (operateUnary op v) := by
  unfold operateUnary
  split <;> infer_instance

instance respects_readInteger (base : Nat) (shownText : String) (text : List Char) :
    Respects R (readInteger base shownText text) := by
  unfold readInteger
  dsimp only
  split <;> infer_instance

instance respects_truncateFloat (x : Float) : Respects R (truncateFloat x) := by
  unfold truncateFloat
  split <;> infer_instance

instance respects_readFloat (shownText : String) (text : List Char) :
    Respects R (readFloat shownText text) := by
  unfold readFloat
  dsimp only
  split <;> infer_instance

instance respects_integerOf (v : Value) : Respects R (integerOf v) := by
  unfold integerOf
  repeat' first | infer_instance | split

instance respects_floatOf (v : Value) : Respects R (floatOf v) := by
  unfold floatOf
  repeat' first | infer_instance | split

instance respects_roundValue (v : Value) (places : Option Value) :
    Respects R (roundValue v places) := by
  unfold roundValue
  repeat' first | infer_instance | split | with_reducible refine .bind ?_ fun _ => ?_

instance respects_powerModulo (a b c : Int) : Respects R (powerModulo a b c) := by
  unfold powerModulo
  dsimp only
  repeat' first | infer_instance | split

/-! ### Items -/

instance respects_sliceBound (v : Value) : Respects R (sliceBound v) := by
  unfold sliceBound
  repeat' first | infer_instance | split

instance respects_sliceParts (first last step : Value) :
    Respects R (sliceParts first last step) := by
  unfold sliceParts
  refine .bind inferInstance fun _ => ?_
  split <;> infer_instance

instance respects_sliced {α : Type} (items : Array α) (first last step : Value) :
    Respects R (sliced items first last step) := by
  unfold sliced
  infer_instance

instance respects_rowPosition (what : String) (size : Nat) (index : Value) :
    Respects R (rowPosition what size index) := by
  unfold rowPosition
  repeat' first | infer_instance | split

instance respects_demandKey (key : Value) : Respects R (demandKey key) := by
  unfold demandKey
  split <;> infer_instance

instance respects_dictGet? (address : Nat) (key : Value) : Respects R (dictGet? address key) := by
  unfold dictGet?
  infer_instance

instance respects_dictSet (address : Nat) (key value : Value) :
    Respects R (dictSet address key value) := by
  unfold dictSet
  infer_instance

instance respects_dictRemove? (address : Nat) (key : Value) :
    Respects R (dictRemove? address key) := by
  unfold dictRemove?
  refine .bind inferInstance fun _ => .bind inferInstance fun _ => ?_
  split <;> infer_instance

instance respects_getItem (v index : Value) : Respects R (getItem v index) := by
  unfold getItem
  repeat' first | infer_instance | split | with_reducible refine .bind ?_ fun _ => ?_

instance respects_setSlice (address : Nat) (first last step : Value) (part : List Value) :
    Respects R (setSlice address first last step part) := by
  unfold setSlice
  infer_instance

instance respects_setItem (v index value : Value) (part : Run (List Value)) [Respects R part] :
    Respects R (setItem v index value part) := by
  unfold setItem
  split <;> infer_instance

instance respects_deleteItem (v index : Value) : Respects R (deleteItem v index) := by
  unfold deleteItem
  repeat' first | infer_instance | split | with_reducible refine .bind ?_ fun _ => ?_

instance respects_anyMatches (v : Value) (items : List Value) :
    Respects R (anyMatches v items) := by
  induction items with
  | nil => exact Run.respects_pure _
  | cons item items ih =>
    unfold anyMatches
    infer_instance

instance respects_contains? (container v : Value) : Respects R (contains? container v) := by
  unfold contains?
  repeat' first | infer_instance | split

/-! ### Names -/

instance respects_unboundLocal {α : Type} (name : String) :
    Respects R (unboundLocal name : Run α) := by
  unfold unboundLocal
  infer_instance

instance respects_unboundFree {α : Type} (name : String) : Respects R (unboundFree name : Run α) := by
  unfold unboundFree
  infer_instance

instance respects_undefinedName {α : Type} (name : String) :
    Respects R (undefinedName name : Run α) := by
  unfold undefinedName
  infer_instance

instance respects_builtinNamed (name : String) : Respects R (builtinNamed name) := by
  unfold builtinNamed
  split <;> infer_instance

instance respects_lookupBuiltin (entries : Array (Value × Value)) (name : String) :
    Respects R (lookupBuiltin entries name) := by
  unfold lookupBuiltin
  repeat' first | infer_instance | split | with_reducible refine .bind ?_ fun _ => ?_

instance respects_lookupGlobal (globals : Nat) (name : String) :
    Respects R (lookupGlobal globals name) := by
  unfold lookupGlobal
  refine .bind inferInstance fun _ => ?_
  split <;> infer_instance

instance respects_lookupIn (globals : Nat) (name : String) (inner : Bool) (addresses : List Nat) :
    Respects R (lookupIn globals name inner addresses) := by
  fun_induction lookupIn globals name inner addresses
  all_goals repeat' first | infer_instance | split | with_reducible refine .bind ?_ fun _ => ?_

instance respects_lookupName (scope : Scope) (name : String) :
    Respects R (lookupName scope name) := by
  unfold lookupName
  infer_instance

instance respects_nameValue (scope : Scope) (name : String) :
    Respects R (nameValue scope name) := by
  unfold nameValue
  infer_instance

instance respects_bindIn (globals : Nat) (name : String) (v : Value) (addresses : List Nat) :
    Respects R (bindIn globals name v addresses) := by
  fun_induction bindIn globals name v addresses
  all_goals repeat' first | infer_instance | split | with_reducible refine .bind ?_ fun _ => ?_

instance respects_bindName (scope : Scope) (name : String) (v : Value) :
    Respects R (bindName scope name v) := by
  unfold bindName
  infer_instance

instance respects_removeGlobal (globals : Nat) (name : String) :
    Respects R (removeGlobal globals name) := by
  unfold removeGlobal
  refine .bind inferInstance fun _ => ?_
  split <;> infer_instance

instance respects_removeIn (globals : Nat) (name : String) (inner : Bool) (addresses : List Nat) :
    Respects R (removeIn globals name inner addresses) := by
  fun_induction removeIn globals name inner addresses
  all_goals repeat' first | infer_instance | split | with_reducible refine .bind ?_ fun _ => ?_

instance respects_removeName (scope : Scope) (name : String) :
    Respects R (removeName scope name) := by
  unfold removeName
  infer_instance

instance respects_isBoundIn (name : String) (addresses : List Nat) :
    Respects R (isBoundIn name addresses) := by
  fun_induction isBoundIn name addresses
  all_goals repeat' first | infer_instance | split | with_reducible refine .bind ?_ fun _ => ?_

instance respects_boundAmong (addresses : List Nat) (names : List String) :
    Respects R (boundAmong addresses names) := by
  fun_induction boundAmong addresses names <;> infer_instance

instance respects_visibleNames (scope : Scope) : Respects R (visibleNames scope) := by
  unfold visibleNames
  repeat' first | infer_instance | split | with_reducible refine .bind ?_ fun _ => ?_

instance respects_showNames (scope : Scope) : Respects R (showNames scope) := by
  unfold showNames
  infer_instance

instance respects_showGlobals (scope : Scope) : Respects R (showGlobals scope) := by
  unfold showGlobals
  infer_instance

instance respects_yieldItem (scope : Scope) (v : Value) : Respects R (yieldItem scope v) := by
  unfold yieldItem
  split <;> infer_instance

/-! ### Formats -/

instance respects_unknownFormat {α : Type} (kind : Char) (what : String) :
    Respects R (unknownFormat kind what : Run α) := by
  unfold unknownFormat
  infer_instance

instance Format.respects_text (f : Format) (s : String) : Respects R (Format.text f s) := by
  unfold Format.text
  repeat' first | infer_instance | split

instance Format.respects_checkKind (f : Format) (kinds what : String) :
    Respects R (Format.checkKind f kinds what) := by
  unfold Format.checkKind
  split <;> infer_instance

instance Format.respects_float (f : Format) (x : Float) : Respects R (Format.float f x) := by
  unfold Format.float
  infer_instance

instance Format.respects_complex (f : Format) (re im : Float) :
    Respects R (Format.complex f re im) := by
  unfold Format.complex
  infer_instance

instance Format.respects_character (f : Format) (i : Int) : Respects R (Format.character f i) := by
  unfold Format.character
  infer_instance

instance Format.respects_integer (f : Format) (i : Int) : Respects R (Format.integer f i) := by
  unfold Format.integer
  dsimp only
  repeat' first | infer_instance | split

instance respects_formatValue (v : Value) (format : String) :
    Respects R (formatValue v format) := by
  unfold formatValue
  dsimp only
  repeat' first | infer_instance | split

instance respects_patternNumber (text : List Char) (arguments : List Value) :
    Respects R (patternNumber text arguments) := by
  unfold patternNumber
  repeat' first | infer_instance | split

instance respects_patternInteger (kind : Char) (v : Value) :
    Respects R (patternInteger kind v) := by
  unfold patternInteger
  repeat' first | infer_instance | split

instance respects_patternCharacter (v : Value) : Respects R (patternCharacter v) := by
  unfold patternCharacter
  repeat' first | infer_instance | split

instance respects_patternField (f : Format) (kind : Char) (v : Value) :
    Respects R (patternField f kind v) := by
  unfold patternField
  repeat' first | infer_instance | split

theorem respects_patternArguments {item : Option (Value → Run Value)}
    (hitem : ∀ get, item = some get → ∀ v, Respects R (get v)) (text : List Char)
    (arguments : List Value) : Respects R (patternArguments item text arguments) := by
  unfold patternArguments
  split
  · cases item with
    | none => exact Run.respects_raise _ _
    | some item =>
      have := hitem item rfl
      dsimp only
      split <;> infer_instance
  · infer_instance

theorem respects_fillPattern {item : Option (Value → Run Value)}
    (hitem : ∀ get, item = some get → ∀ v, Respects R (get v)) (n : Nat) (text : List Char)
    (arguments : List Value) (out : String) :
    Respects R (fillPattern item n text arguments out) := by
  have := respects_patternArguments hitem
  fun_induction fillPattern item n text arguments out
  all_goals
    repeat' first | infer_instance | split | with_reducible refine .bind ?_ fun _ => ?_ | dsimp only

instance respects_formatPattern (pattern : String) (v : Value) :
    Respects R (formatPattern pattern v) := by
  have hitem : ∀ get, (if hasPatternItems v then some (getItem v) else none) = some get →
      ∀ key, Respects R (get key) := by
    intro get h key
    split at h <;> cases h
    infer_instance
  have hfill := respects_fillPattern hitem
  unfold formatPattern
  dsimp only
  infer_instance

instance respects_binaryOperation (op : BinaryOp) (a b : Value) :
    Respects R (binaryOperation op a b) := by
  unfold binaryOperation
  split <;> infer_instance

/-! ### Iterators -/

instance respects_notIterable {α : Type} (v : Value) : Respects R (notIterable v : Run α) := by
  unfold notIterable
  infer_instance

instance respects_iterationOf? (v : Value) : Respects R (iterationOf? v) := by
  unfold iterationOf?
  split <;> infer_instance

instance respects_iterator (v : Value) : Respects R (iterator v) := by
  unfold iterator
  repeat' first | infer_instance | split | with_reducible refine .bind ?_ fun _ => ?_

instance respects_itemsAtHand? (v : Value) : Respects R (itemsAtHand? v) := by
  unfold itemsAtHand?
  split <;> infer_instance

/-! ### Arguments -/

instance respects_bindKeywords (name : String) (parameters : List Parameter)
    (bound others keywords : List (String × Value)) :
    Respects R (bindKeywords name parameters bound others keywords) := by
  fun_induction bindKeywords name parameters bound others keywords <;> infer_instance

instance respects_bindArguments (name : String) (parameters : List Parameter)
    (defaults : List (String × Value)) (positions : List Value)
    (keywords : List (String × Value)) :
    Respects R (bindArguments name parameters defaults positions keywords) := by
  unfold bindArguments
  repeat' first | infer_instance | split | with_reducible refine .bind ?_ fun _ => ?_

instance respects_share (d : Operation.Demand) (name : String) (positions : List Value)
    (keywords : Keywords) : Respects R (d.share name positions keywords) := by
  unfold Operation.Demand.share
  infer_instance

/-! ### Data -/

instance respects_datumWithin (n : Nat) (v : Value) : Respects R (v.datumWithin n) := by
  induction n generalizing v with
  | zero => exact Run.respects_pure _
  | succ n ih =>
    unfold Value.datumWithin
    split <;> infer_instance

instance respects_datum (v : Value) : Respects R v.datum := respects_datumWithin _ v

instance respects_keywordData (keywords : Keywords) :
    Respects R (Operation.keywordData keywords) := by
  induction keywords with
  | nil => exact Run.respects_pure _
  | cons e keywords ih =>
    unfold Operation.keywordData
    infer_instance

instance respects_demandChecked {α : Type} (c : Checked α) : Respects R (demandChecked c) := by
  unfold demandChecked
  split <;> infer_instance

end LambdaText
