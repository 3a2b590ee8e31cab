import LambdaText.Proofs.Veiled.Runs
import LambdaText.Value.Numeric

/-!
# Operations on values are apart

Writing, comparing and formatting values, arithmetic, and looking items up are apart from what is
hidden if the values do not lead there.
-/

namespace LambdaText

open LambdaText.Code LambdaText.Function LambdaText.Number LambdaText.Text
open Run (Apart)

variable {V : Veil} {c : Facts V}

/-! ### Written forms -/

instance apart_integerText (i : Int) : Apart c (integerText i) := by
  unfold integerText
  infer_instance

instance apart_truth (v : Value) [Has c v] : Apart c (truth v) := by
  unfold truth
  refine .using v ?_
  split <;> infer_instance

instance apart_shownWithin (n : Nat) (active : List Nat) (v : Value) [Has c v] :
    Apart c (shownWithin n active v) := by
  induction n generalizing active v c with
  | zero => exact Run.apart_raise _ _
  | succ n ih =>
    unfold shownWithin
    refine .using v ?_
    repeat' first | infer_instance | split | with_reducible refine .bind ?_ fun _ => ?_

instance apart_shown (v : Value) [Has c v] : Apart c (shown v) := by
  unfold shown
  infer_instance

instance apart_plain (v : Value) [Has c v] : Apart c (plain v) := by
  unfold plain
  refine .using v ?_
  repeat' first | infer_instance | split

/-! ### Comparisons -/

section

variable (eq : Value → Value → Run Bool) [heq : ∀ a b, Apart ((c.and a).and b) (eq a b)]

include heq

instance apart_rowsEqual (as bs : List Value) [Has c as] [Has c bs] :
    Apart c (rowsEqual eq as bs) := by
  have heq (d : Facts V) [Knows d c] (a b : Value) [Has d a] [Has d b] : Apart d (eq a b) :=
    .apply₂ heq a b
  have hrun (d : Facts V) [Knows d c] (as bs : List Value) [Has d as] [Has d bs] :
      Apart d (rowsEqual eq as bs) := by
    induction as generalizing bs d with
    | nil => cases bs <;> exact Run.apart_pure _
    | cons a as ih =>
      cases bs with
      | nil => exact Run.apart_pure _
      | cons b bs =>
        unfold rowsEqual
        exact .using (a :: as) (.using (b :: bs) inferInstance)
  exact hrun c as bs

instance apart_entriesEqual (others : Array (Value × Value)) (entries : List (Value × Value))
    [Has c others] [Has c entries] : Apart c (entriesEqual eq others entries) := by
  have heq (d : Facts V) [Knows d c] (a b : Value) [Has d a] [Has d b] : Apart d (eq a b) :=
    .apply₂ heq a b
  have hrun (d : Facts V) [Knows d c] [Has d others] (entries : List (Value × Value))
      [Has d entries] : Apart d (entriesEqual eq others entries) := by
    induction entries generalizing d with
    | nil => exact Run.apart_pure _
    | cons e entries ih =>
      unfold entriesEqual
      refine .using (e :: entries) ?_
      split
      · exact .of_eq_some ‹_ = some _› inferInstance
      · infer_instance
  exact hrun c entries

end

instance apart_equalWithin (n : Nat) (a b : Value) [Has c a] [Has c b] :
    Apart c (equalWithin n a b) := by
  induction n generalizing a b c with
  | zero => exact Run.apart_raise _ _
  | succ n ih =>
    unfold equalWithin
    refine .using a (.using b ?_)
    repeat' first | infer_instance | split

instance apart_equal (a b : Value) [Has c a] [Has c b] : Apart c (equal a b) := by
  unfold equal
  infer_instance

instance apart_matches_ (a b : Value) [Has c a] [Has c b] : Apart c (matches_ a b) := by
  unfold matches_
  infer_instance

instance apart_firstDifference (as bs : List Value) [Has c as] [Has c bs] :
    Apart c (firstDifference as bs) := by
  induction as generalizing bs c with
  | nil => exact Run.apart_pure _
  | cons a as ih =>
    cases bs with
    | nil => exact Run.apart_pure _
    | cons b bs =>
      unfold firstDifference
      exact .using (a :: as) (.using (b :: bs) inferInstance)

instance apart_noOrder {α : Type} [Valued α] (op : CompareOp) (a b : Value) :
    Apart c (noOrder op a b : Run α) := by
  unfold noOrder
  infer_instance

instance apart_orderedWithin (n : Nat) (op : CompareOp) (a b : Value) [Has c a] [Has c b] :
    Apart c (orderedWithin n op a b) := by
  induction n generalizing a b c with
  | zero => exact Run.apart_raise _ _
  | succ n ih =>
    unfold orderedWithin
    refine .using a (.using b ?_)
    repeat' first | infer_instance | split | with_reducible refine .bind ?_ fun _ => ?_

instance apart_ordered (op : CompareOp) (a b : Value) [Has c a] [Has c b] :
    Apart c (ordered op a b) := by
  unfold ordered
  infer_instance

instance apart_mergeSorted (n : Nat) (as bs : List (Value × Value)) [Has c as] [Has c bs] :
    Apart c (mergeSorted n as bs) := by
  induction n generalizing as bs c with
  | zero => exact Run.apart_pure _
  | succ n ih =>
    cases as with
    | nil => exact Run.apart_pure _
    | cons a as =>
      cases bs with
      | nil => exact Run.apart_pure _
      | cons b bs =>
        unfold mergeSorted
        exact .using (a :: as) (.using (b :: bs) inferInstance)

instance apart_sortWithin (n : Nat) (items : List (Value × Value)) [Has c items] :
    Apart c (sortWithin n items) := by
  induction n generalizing items c with
  | zero => exact Run.apart_pure _
  | succ n ih =>
    unfold sortWithin
    infer_instance

instance apart_sortKeyed (backwards : Bool) (items : List (Value × Value)) [Has c items] :
    Apart c (sortKeyed backwards items) := by
  unfold sortKeyed
  infer_instance

/-! ### Numbers -/

instance apart_unsupported {α : Type} [Valued α] (op : BinaryOp) (a b : Value) :
    Apart c (unsupported op a b : Run α) := by
  unfold unsupported
  infer_instance

instance apart_divisionByZero {α : Type} [Valued α] (message : String) :
    Apart c (divisionByZero message : Run α) := by
  unfold divisionByZero
  infer_instance

instance apart_toFloat (i : Int) : Apart c (toFloat i) := by
  unfold toFloat
  infer_instance

instance apart_divideInts (a b : Int) : Apart c (divideInts a b) := by
  unfold divideInts
  infer_instance

instance apart_powerFloats (x y : Float) : Apart c (powerFloats x y) := by
  unfold powerFloats
  repeat' first | infer_instance | split

instance apart_powerInts (a b : Int) : Apart c (powerInts a b) := by
  unfold powerInts
  infer_instance

instance apart_shiftInts (a b : Int) : Apart c (shiftInts a b) := by
  unfold shiftInts
  infer_instance

instance apart_intOperator (op : BinaryOp) (a b : Int) : Apart c (intOperator op a b) := by
  unfold intOperator
  split <;> infer_instance

instance apart_floatOperator (op : BinaryOp) (x y : Float) : Apart c (floatOperator op x y) := by
  unfold floatOperator
  split <;> infer_instance

instance apart_complexOperator (op : BinaryOp) (a b : ComplexFloat) :
    Apart c (complexOperator op a b) := by
  unfold complexOperator
  repeat' first | infer_instance | split

instance Amount.apart_toFloat (a : Amount) : Apart c a.toFloat := by
  cases a with
  | int i => exact LambdaText.apart_toFloat i
  | float x => exact Run.apart_pure x
  | complex re im => exact Run.apart_raise _ _

instance Amount.apart_toComplex (a : Amount) : Apart c a.toComplex := by
  cases a with
  | int i => exact Run.apart_bind _ _
  | float x => exact Run.apart_pure _
  | complex re im => exact Run.apart_pure _

instance apart_numberOperator (op : BinaryOp) (a b : Value) (m n : Amount) :
    Apart c (numberOperator op a b m n) := by
  unfold numberOperator
  repeat' first | infer_instance | split

instance apart_repetition (size : Nat) (times : Int) : Apart c (repetition size times) := by
  unfold repetition
  infer_instance

instance apart_repeated (v : Value) (times : Int) [Has c v] : Apart c (repeated v times) := by
  unfold repeated
  refine .using v ?_
  split <;> infer_instance

instance apart_setOperator (op : BinaryOp) (a b : Value) (as bs : Array Value) [Has c a] [Has c b]
    [Has c as] [Has c bs] : Apart c (setOperator op a b as bs) := by
  unfold setOperator
  split <;> infer_instance

instance apart_repeatOperands (a b : Value) [Has c a] [Has c b] : Apart c (repeatOperands a b) := by
  unfold repeatOperands
  repeat' first | infer_instance | split

instance apart_joinOperands (a b : Value) [Has c a] [Has c b] : Apart c (joinOperands a b) := by
  unfold joinOperands
  refine .using a (.using b ?_)
  split <;> infer_instance

instance apart_operate (op : BinaryOp) (a b : Value) [Has c a] [Has c b] :
    Apart c (operate op a b) := by
  unfold operate
  refine .using a (.using b ?_)
  repeat' first | infer_instance | split

instance apart_operateUnary (op : UnaryOp) (v : Value) [Has c v] : Apart c (operateUnary op v) := by
  unfold operateUnary
  split <;> infer_instance

instance apart_readInteger (base : Nat) (shownText : String) (text : List Char) :
    Apart c (readInteger base shownText text) := by
  unfold readInteger
  dsimp only
  split <;> infer_instance

instance apart_truncateFloat (x : Float) : Apart c (truncateFloat x) := by
  unfold truncateFloat
  split <;> infer_instance

instance apart_readFloat (shownText : String) (text : List Char) :
    Apart c (readFloat shownText text) := by
  unfold readFloat
  dsimp only
  split <;> infer_instance

instance apart_integerOf (v : Value) [Has c v] : Apart c (integerOf v) := by
  unfold integerOf
  repeat' first | infer_instance | split

instance apart_floatOf (v : Value) [Has c v] : Apart c (floatOf v) := by
  unfold floatOf
  repeat' first | infer_instance | split

instance apart_roundValue (v : Value) (places : Option Value) [Has c v] [Has c places] :
    Apart c (roundValue v places) := by
  unfold roundValue
  repeat' first | infer_instance | split | with_reducible refine .bind ?_ fun _ => ?_

instance apart_powerModulo (i j n : Int) : Apart c (powerModulo i j n) := by
  unfold powerModulo
  dsimp only
  repeat' first | infer_instance | split

/-! ### Items -/

instance apart_sliceBound (v : Value) : Apart c (sliceBound v) := by
  unfold sliceBound
  repeat' first | infer_instance | split

instance apart_sliceParts (first last step : Value) :
    Apart c (sliceParts first last step) := by
  unfold sliceParts
  refine .bind inferInstance fun _ => ?_
  split <;> infer_instance

instance apart_sliced {α : Type} [Valued α] (items : Array α) (first last step : Value)
    [Has c items] : Apart c (sliced items first last step) := by
  unfold sliced
  infer_instance

instance apart_rowPosition (what : String) (size : Nat) (index : Value) :
    Apart c (rowPosition what size index) := by
  unfold rowPosition
  repeat' first | infer_instance | split

instance apart_demandKey (key : Value) : Apart c (demandKey key) := by
  unfold demandKey
  split <;> infer_instance

instance apart_dictGet? (address : Nat) (key : Value) [Away c address] :
    Apart c (dictGet? address key) := by
  unfold dictGet?
  infer_instance

instance apart_dictSet (address : Nat) (key value : Value) [Away c address] [Has c key]
    [Has c value] : Apart c (dictSet address key value) := by
  unfold dictSet
  infer_instance

instance apart_dictRemove? (address : Nat) (key : Value) [Away c address] :
    Apart c (dictRemove? address key) := by
  unfold dictRemove?
  refine .bind inferInstance fun _ => .bind inferInstance fun _ => ?_
  split <;> infer_instance

instance apart_getItem (v index : Value) [Has c v] [Has c index] : Apart c (getItem v index) := by
  unfold getItem
  refine .using v (.using index ?_)
  repeat' first | infer_instance | split | with_reducible refine .bind ?_ fun _ => ?_

instance apart_setSlice (address : Nat) (first last step : Value) (part : List Value)
    [Away c address] [Has c part] : Apart c (setSlice address first last step part) := by
  unfold setSlice
  infer_instance

instance apart_setItem (v index value : Value) (part : Run (List Value)) [Apart c part] [Has c v]
    [Has c index] [Has c value] : Apart c (setItem v index value part) := by
  unfold setItem
  refine .using v (.using index ?_)
  split
  · exact .bind (.of_knows ‹Apart c part›) fun _ => inferInstance
  all_goals infer_instance

instance apart_deleteItem (v index : Value) [Has c v] [Has c index] :
    Apart c (deleteItem v index) := by
  unfold deleteItem
  refine .using v (.using index ?_)
  repeat' first | infer_instance | split | with_reducible refine .bind ?_ fun _ => ?_

instance apart_anyMatches (v : Value) (items : List Value) [Has c v] [Has c items] :
    Apart c (anyMatches v items) := by
  induction items generalizing c with
  | nil => exact Run.apart_pure _
  | cons item items ih =>
    unfold anyMatches
    exact .using (item :: items) inferInstance

instance apart_contains? (container v : Value) [Has c container] [Has c v] :
    Apart c (contains? container v) := by
  unfold contains?
  refine .using container (.using v ?_)
  repeat' first | infer_instance | split

/-! ### Formats -/

instance apart_unknownFormat {α : Type} [Valued α] (kind : Char) (what : String) :
    Apart c (unknownFormat kind what : Run α) := by
  unfold unknownFormat
  infer_instance

instance Format.apart_text (f : Format) (s : String) : Apart c (Format.text f s) := by
  unfold Format.text
  repeat' first | infer_instance | split

instance Format.apart_checkKind (f : Format) (kinds what : String) :
    Apart c (Format.checkKind f kinds what) := by
  unfold Format.checkKind
  split <;> infer_instance

instance Format.apart_float (f : Format) (x : Float) : Apart c (Format.float f x) := by
  unfold Format.float
  infer_instance

instance Format.apart_complex (f : Format) (re im : Float) : Apart c (Format.complex f re im) := by
  unfold Format.complex
  infer_instance

instance Format.apart_character (f : Format) (i : Int) : Apart c (Format.character f i) := by
  unfold Format.character
  infer_instance

instance Format.apart_integer (f : Format) (i : Int) : Apart c (Format.integer f i) := by
  unfold Format.integer
  dsimp only
  repeat' first | infer_instance | split

instance apart_formatValue (v : Value) (format : String) [Has c v] :
    Apart c (formatValue v format) := by
  unfold formatValue
  dsimp only
  repeat' first | infer_instance | split

instance apart_patternNumber (text : List Char) (arguments : List Value) [Has c arguments] :
    Apart c (patternNumber text arguments) := by
  unfold patternNumber
  refine .using arguments ?_
  repeat' first | infer_instance | split

instance apart_patternInteger (kind : Char) (v : Value) : Apart c (patternInteger kind v) := by
  unfold patternInteger
  repeat' first | infer_instance | split

instance apart_patternCharacter (v : Value) : Apart c (patternCharacter v) := by
  unfold patternCharacter
  repeat' first | infer_instance | split

instance apart_patternField (f : Format) (kind : Char) (v : Value) [Has c v] :
    Apart c (patternField f kind v) := by
  unfold patternField
  repeat' first | infer_instance | split

section

variable {item : Option (Value → Run Value)}

theorem apart_patternArguments (hitem : ∀ get ∈ item, ∀ key : List Char,
    Apart c (get (.ofChars key))) (text : List Char) (arguments : List Value) [Has c arguments] :
    Apart c (patternArguments item text arguments) := by
  unfold patternArguments
  split
  · cases item with
    | none => exact Run.apart_raise _ _
    | some get =>
      have := hitem get rfl
      dsimp only
      split <;> infer_instance
  · infer_instance

theorem apart_fillPattern (hitem : ∀ get ∈ item, ∀ key : List Char, Apart c (get (.ofChars key)))
    (n : Nat) (text : List Char) (arguments : List Value) (out : String) [Has c arguments] :
    Apart c (fillPattern item n text arguments out) := by
  have hfirst (d : Facts V) [Knows d c] (text : List Char) (arguments : List Value)
      [Has d arguments] : Apart d (patternArguments item text arguments) :=
    apart_patternArguments (fun get hget key => .of_knows (hitem get hget key)) text arguments
  have hrun (d : Facts V) [Knows d c] (n : Nat) (text : List Char) (arguments : List Value)
      (out : String) [Has d arguments] : Apart d (fillPattern item n text arguments out) := by
    fun_induction fillPattern item n text arguments out generalizing d with
    | case4 n rest arguments out _ ih =>
      refine .bind inferInstance fun flags => ?_
      obtain ⟨rest, arguments⟩ := flags
      refine .bind inferInstance fun width => ?_
      obtain ⟨width, rest', arguments'⟩ := width
      dsimp only
      split
      · refine .bind inferInstance fun precision => ?_
        obtain ⟨precision, rest'', arguments''⟩ := precision
        simp only [pure_bind]
        split <;> infer_instance
      · simp only [pure_bind]
        split <;> infer_instance
    | _ => infer_instance
  exact hrun c n text arguments out

end

instance apart_formatPattern (pattern : String) (v : Value) [Has c v] :
    Apart c (formatPattern pattern v) := by
  have hitem : ∀ get ∈ (if hasPatternItems v then some (getItem v) else none : Option _),
      ∀ key : List Char, Apart c (get (.ofChars key)) := by
    intro get h key
    split at h <;> cases h
    infer_instance
  unfold formatPattern
  dsimp only
  have : Has c (match v with
      | .tuple items => items
      | v => [v]) :=
    .using v (by split <;> infer_instance)
  exact .bind (apart_fillPattern hitem _ _ _ _) fun _ => inferInstance

instance apart_binaryOperation (op : BinaryOp) (a b : Value) [Has c a] [Has c b] :
    Apart c (binaryOperation op a b) := by
  unfold binaryOperation
  split <;> infer_instance

end LambdaText
