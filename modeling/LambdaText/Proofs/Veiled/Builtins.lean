import LambdaText.Builtin.Method
import LambdaText.Eval.Compile
import LambdaText.Proofs.Veiled.Values

/-!
# Built-in functions and methods are apart

What is built in calls functions and advances iterators by a machine. It is apart from what is
hidden if the answers of the machine are.
-/

namespace LambdaText

open LambdaText.Code LambdaText.Function LambdaText.Log LambdaText.Number LambdaText.Text
open Run (Apart)

variable {V : Veil} {c : Facts V}

/-- A machine all of whose answers are apart from what is hidden. -/
class Machine.Apart (V : Veil) (m : Machine) : Prop where
  expr (c : Facts V) (scope : Scope) (e : Expr) [Covered c scope e.free] :
    Run.Apart c (m.expr scope e)
  block (c : Facts V) (scope : Scope) (b : List Stmt) [Foreign c scope] :
    Run.Apart c (m.block scope b)
  call (c : Facts V) (f : Value) (positions : List Value) (keywords : List (String × Value))
    [Has c f] [Has c positions] [Has c keywords] : Run.Apart c (m.call f positions keywords)
  advance (c : Facts V) (address : Nat) [Away c address] : Run.Apart c (m.advance address)

attribute [instance] Machine.Apart.expr Machine.Apart.block Machine.Apart.call
  Machine.Apart.advance

/-! ### Iteration -/

instance apart_notIterable {α : Type} [Valued α] (v : Value) : Apart c (notIterable v : Run α) := by
  unfold notIterable
  infer_instance

instance apart_iterationOf? (v : Value) [Has c v] : Apart c (iterationOf? v) := by
  unfold iterationOf?
  refine .using v ?_
  split <;> infer_instance

instance apart_iterator (v : Value) [Has c v] : Apart c (iterator v) := by
  unfold iterator
  repeat' first | infer_instance | split | with_reducible refine .bind ?_ fun _ => ?_

variable (m : Machine) [m.Apart V]

instance apart_next? (it : Value) [Has c it] : Apart c (next? m it) := by
  unfold next?
  refine .using it ?_
  split <;> infer_instance

instance apart_foldItems {σ α : Type} [Valued σ] [Valued α] (it : Value)
    (step : σ → Value → Run (σ ⊕ α)) (final : σ → Run α) (s : σ)
    [hstep : ∀ s v, Apart ((c.and s).and v) (step s v)] [hfinal : ∀ s, Apart (c.and s) (final s)]
    [Has c it] [Has c s] : Apart c (foldItems m it step final s) := by
  have hstep (d : Facts V) [Knows d c] (s : σ) (v : Value) [Has d s] [Has d v] :
      Apart d (step s v) := .apply₂ hstep s v
  have hfinal (d : Facts V) [Knows d c] (s : σ) [Has d s] : Apart d (final s) := .apply hfinal s
  have (s : σ) : Apart (c.and s) (do
      match ← next? m it with
      | some v => step s v
      | none => return .inr (← final s) : Run (σ ⊕ α)) :=
    .bind inferInstance fun v => by split <;> infer_instance
  unfold foldItems
  infer_instance

instance apart_itemsAtHand? (v : Value) [Has c v] : Apart c (itemsAtHand? v) := by
  have (d : Facts V) (kind : String) (e : Value × Value) [Has d e] : Has d (match e with
      | (k, v) => match kind with
        | "dict_keys" => k
        | "dict_values" => v
        | _ => Value.tuple [k, v]) :=
    has_viewItem kind e
  unfold itemsAtHand?
  refine .using v ?_
  split <;> infer_instance

instance apart_drain (it : Value) [Has c it] : Apart c (drain m it) := by
  unfold drain
  infer_instance

instance apart_itemsOf (v : Value) [Has c v] : Apart c (itemsOf m v) := by
  unfold itemsOf
  refine .bind inferInstance fun _ => ?_
  split <;> infer_instance

instance apart_takeItems (it : Value) (n : Nat) [Has c it] : Apart c (takeItems m it n) := by
  have hrun (d : Facts V) [Knows d c] [Has d it] (n : Nat) : Apart d (takeItems m it n) := by
    induction n generalizing d with
    | zero => exact Run.apart_pure _
    | succ n ih =>
      unfold takeItems
      refine .bind inferInstance fun _ => ?_
      split <;> infer_instance
  exact hrun c n

instance apart_unpackExactly (v : Value) (n : Nat) [Has c v] : Apart c (unpackExactly m v n) := by
  unfold unpackExactly
  repeat' first | infer_instance | split | with_reducible refine .bind ?_ fun _ => ?_

/-! ### Arguments -/

instance apart_noKeywords (name : String) (keywords : Keywords) :
    Apart c (noKeywords name keywords) := by
  unfold noKeywords
  infer_instance

instance apart_demandCount (name : String) (least most : Nat) (positions : List Value)
    (keywords : Keywords) : Apart c (demandCount name least most positions keywords) := by
  unfold demandCount
  infer_instance

instance apart_shareArguments (name : String) (parameters : List String) (closed required : Nat)
    (positions : List Value) (keywords : Keywords) [Has c positions] [Has c keywords] :
    Apart c (shareArguments name parameters closed required positions keywords) := by
  unfold shareArguments
  dsimp only
  repeat' first | infer_instance | split

instance apart_demandIndex (v : Value) : Apart c (demandIndex v) := by
  unfold demandIndex
  split <;> infer_instance

instance apart_demandText (what : String) (v : Value) : Apart c (demandText what v) := by
  unfold demandText
  split <;> infer_instance

/-! ### Containers -/

instance apart_countMatches (v : Value) (items : List Value) [Has c v] [Has c items] :
    Apart c (countMatches v items) := by
  induction items generalizing c with
  | nil => exact Run.apart_pure _
  | cons item items ih =>
    unfold countMatches
    exact .using (item :: items) inferInstance

instance apart_indexOf? (v : Value) (start : Nat) (items : List Value) [Has c v] [Has c items] :
    Apart c (indexOf? v start items) := by
  induction items generalizing c start with
  | nil => exact Run.apart_pure _
  | cons item items ih =>
    unfold indexOf?
    exact .using (item :: items) inferInstance

instance apart_searchBound (v : Option Value) (size default : Nat) :
    Apart c (searchBound v size default) := by
  unfold searchBound
  repeat' first | infer_instance | split

instance apart_indexMethod (items : List Value) (missing : Value → Run String)
    (positions : List Value) [hmissing : ∀ a, Apart (c.and a) (missing a)] [Has c items]
    [Has c positions] : Apart c (indexMethod items missing positions) := by
  have hmissing (d : Facts V) [Knows d c] (a : Value) [Has d a] : Apart d (missing a) :=
    .apply hmissing a
  unfold indexMethod
  dsimp only
  refine .bind inferInstance fun _ => .bind inferInstance fun _ => .bind inferInstance fun _ => ?_
  split <;> infer_instance

instance apart_sortValues (key : Value) (backwards : Bool) (items : List Value) [Has c key]
    [Has c items] : Apart c (sortValues m key backwards items) := by
  unfold sortValues
  split <;> infer_instance

instance apart_sortOptions (name : String) (keywords : Keywords) [Has c keywords] :
    Apart c (sortOptions name keywords) := by
  unfold sortOptions
  repeat' first | infer_instance | split | with_reducible refine .bind ?_ fun _ => ?_

instance apart_callListMethod (address : Nat) (name : String) (positions : List Value)
    (keywords : Keywords) [Away c address] [Has c positions] [Has c keywords] :
    Apart c (callListMethod m address name positions keywords) := by
  unfold callListMethod
  dsimp only
  repeat' first | infer_instance | split | with_reducible refine .bind ?_ fun _ => ?_

instance apart_callTupleMethod (items : List Value) (name : String) (positions : List Value)
    (keywords : Keywords) [Has c items] [Has c positions] :
    Apart c (callTupleMethod items name positions keywords) := by
  unfold callTupleMethod
  split <;> infer_instance

instance apart_addPairs (entries : Array (Value × Value)) (n : Nat) (pairs : List Value)
    [Has c entries] [Has c pairs] : Apart c (addPairs m entries n pairs) := by
  induction pairs generalizing entries n c with
  | nil => exact Run.apart_pure _
  | cons v pairs ih =>
    unfold addPairs
    refine .using (v :: pairs) ?_
    repeat' first | infer_instance | split | with_reducible refine .bind ?_ fun _ => ?_ | dsimp only

instance apart_updateEntries (entries : Array (Value × Value)) (source : Option Value)
    (keywords : Keywords) [Has c entries] [Has c source] [Has c keywords] :
    Apart c (updateEntries m entries source keywords) := by
  unfold updateEntries
  refine .using source ?_
  split <;> infer_instance

instance apart_callDictMethod (address : Nat) (name : String) (positions : List Value)
    (keywords : Keywords) [Away c address] [Has c positions] [Has c keywords] :
    Apart c (callDictMethod m address name positions keywords) := by
  unfold callDictMethod
  repeat' first | infer_instance | split | with_reducible refine .bind ?_ fun _ => ?_ |
    exact .of_eq_some ‹_ = some _› inferInstance

instance apart_addItems (items : Array Value) (values : List Value) [Has c items]
    [Has c values] : Apart c (addItems items values) := by
  induction values generalizing items c with
  | nil => exact Run.apart_pure _
  | cons v values ih =>
    unfold addItems
    exact .using (v :: values) inferInstance

instance apart_setItemsOf (v : Value) [Has c v] : Apart c (setItemsOf m v) := by
  unfold setItemsOf
  infer_instance

instance apart_callSetMethod (address : Nat) (name : String) (positions : List Value)
    (keywords : Keywords) [Away c address] [Has c positions] :
    Apart c (callSetMethod m address name positions keywords) := by
  unfold callSetMethod
  repeat' first | infer_instance | split | with_reducible refine .bind ?_ fun _ => ?_ |
    exact .of_eq_some ‹_ = some _› inferInstance

/-! ### Classes -/

instance apart_constructInteger (positions : List Value) (keywords : Keywords) [Has c positions]
    [Has c keywords] : Apart c (constructInteger positions keywords) := by
  unfold constructInteger
  repeat' first | infer_instance | split | with_reducible refine .bind ?_ fun _ => ?_

instance apart_complexParts (v : Value) : Apart c (complexParts v) := by
  unfold complexParts
  repeat' first | infer_instance | split

instance apart_constructComplex (positions : List Value) (keywords : Keywords) [Has c positions]
    [Has c keywords] : Apart c (constructComplex positions keywords) := by
  unfold constructComplex
  refine .bind inferInstance fun _ => ?_
  split <;> infer_instance

instance apart_decoded (bytes : List UInt8) : Apart c (decoded bytes) := by
  unfold decoded
  split <;> infer_instance

instance apart_constructText (positions : List Value) (keywords : Keywords) [Has c positions]
    [Has c keywords] : Apart c (constructText positions keywords) := by
  unfold constructText
  refine .bind inferInstance fun _ => ?_
  split <;> infer_instance

instance apart_byteOf (v : Value) : Apart c (byteOf v) := by
  unfold byteOf
  infer_instance

instance apart_constructBytes (positions : List Value) [Has c positions] :
    Apart c (constructBytes m positions) := by
  unfold constructBytes
  refine .using positions ?_
  repeat' first | infer_instance | split

instance apart_constructRange (positions : List Value) [Has c positions] :
    Apart c (constructRange positions) := by
  unfold constructRange
  refine .bind inferInstance fun _ => ?_
  split <;> infer_instance

instance apart_constructReversed (v : Value) [Has c v] : Apart c (constructReversed m v) := by
  unfold constructReversed
  refine .using v ?_
  split <;> infer_instance

instance apart_constructEnumerate (positions : List Value) (keywords : Keywords) [Has c positions]
    [Has c keywords] : Apart c (constructEnumerate positions keywords) := by
  unfold constructEnumerate
  repeat' first | infer_instance | split | with_reducible refine .bind ?_ fun _ => ?_

instance apart_constructCurried (positions : List Value) (keywords : Keywords) [Has c positions]
    [Has c keywords] : Apart c (constructCurried m positions keywords) := by
  unfold constructCurried
  repeat' first | infer_instance | split | with_reducible refine .bind ?_ fun _ => ?_

instance apart_constructTemplate (positions : List Value) (keywords : Keywords) [Has c positions]
    [Has c keywords] : Apart c (constructTemplate m positions keywords) := by
  unfold constructTemplate
  refine .bind inferInstance fun _ => ?_
  split <;> infer_instance

instance apart_construct (kind : String) (positions : List Value) (keywords : Keywords)
    [Has c positions] [Has c keywords] : Apart c (construct m kind positions keywords) := by
  unfold construct
  refine .using positions ?_
  repeat' first | infer_instance | cases ‹_ :: _ = (_ : List Value)› | split |
    with_reducible refine .bind ?_ fun _ => ?_

/-! ### Texts -/

instance apart_newTexts (texts : List (List Char)) : Apart c (newTexts texts) := by
  unfold newTexts
  infer_instance

instance apart_joinTexts (separator : String) (i : Nat) (items : List Value) :
    Apart c (joinTexts separator i items) := by
  fun_induction joinTexts separator i items generalizing c <;> infer_instance

instance apart_optionalBound (v : Option Value) : Apart c (optionalBound v) := by
  unfold optionalBound
  split <;> infer_instance

instance apart_boundedPart (text : List Char) (first last : Option Value) :
    Apart c (boundedPart text first last) := by
  unfold boundedPart
  infer_instance

instance apart_limitOf (v : Option Value) (text : List Char) : Apart c (limitOf v text) := by
  unfold limitOf
  split <;> infer_instance

instance apart_hasEnd (name : String) (test : List Char → Bool) (v : Value) [Has c v] :
    Apart c (hasEnd name test v) := by
  have (d : Facts V) (item : Value) : Apart d (match item with
      | .text s => return s.toList
      | other => Run.raise "TypeError"
          s!"tuple for {name} must only contain str, not {other.kindName}" : Run (List Char)) := by
    split <;> infer_instance
  unfold hasEnd
  refine .using v ?_
  split <;> infer_instance

instance apart_fillChar (v : Option Value) : Apart c (fillChar v) := by
  unfold fillChar
  repeat' first | infer_instance | split

instance has_allOf (test : Char → Bool) (text : List Char) : Has c (allOf test text) := has_bool _

instance has_cutAt (text separator : List Char) (position : Option Nat) (whole : Bool) :
    Has c (cutAt text separator position whole) := by
  unfold cutAt
  split <;> infer_instance

instance has_plainTextMethod? (text : List Char) (name : String) :
    Has c (plainTextMethod? text name) := by
  unfold plainTextMethod?
  split <;> infer_instance

instance apart_stripMethod (text : List Char) (name : String) (argument : Option Value) :
    Apart c (stripMethod text name argument) := by
  unfold stripMethod
  dsimp only
  split <;> infer_instance

instance apart_searchMethod (text : List Char) (name : String) (positions : List Value) :
    Apart c (searchMethod text name positions) := by
  unfold searchMethod
  dsimp only
  repeat' first | infer_instance | split | with_reducible refine .bind ?_ fun _ => ?_

instance apart_splitMethod (text : List Char) (name : String) (positions : List Value)
    (keywords : Keywords) [Has c positions] [Has c keywords] :
    Apart c (splitMethod text name positions keywords) := by
  unfold splitMethod
  repeat' first | infer_instance | split | with_reducible refine .bind ?_ fun _ => ?_

instance apart_fillMethod (text : List Char) (name : String) (positions : List Value) :
    Apart c (fillMethod text name positions) := by
  unfold fillMethod
  infer_instance

instance apart_callTextMethod (s name : String) (positions : List Value) (keywords : Keywords)
    [Has c positions] [Has c keywords] : Apart c (callTextMethod m s name positions keywords) := by
  unfold callTextMethod
  dsimp only
  repeat' first | infer_instance | split | with_reducible refine .bind ?_ fun _ => ?_ |
    exact .of_eq_some ‹_ = some _› inferInstance

/-! ### Attributes -/

instance apart_sourceAttribute? (serial : Nat) (s : Source) (name : String) :
    Apart c (sourceAttribute? serial s name) := by
  unfold sourceAttribute?
  split <;> infer_instance

instance apart_compilerAt (a : Nat) [Public c a] : Apart c (do
    return ((← get).compilers[a]?).map fun k => .settings a k.settings : Run (Option Value)) :=
  Run.apart_get_bind (fun _ => Run.staysLost _) fun {s s'} h hc =>
    ⟨by rw [h.compilers a (Public.ne hc)], (Run.apart_pure _).ends h hc⟩

instance apart_libraryAttribute? (v : Value) (name : String) [Has c v] :
    Apart c (libraryAttribute? v name) := by
  unfold libraryAttribute?
  refine .using v ?_
  repeat' first | infer_instance | split

instance has_errorAttribute? (arguments : List Value) (cause : Option Cause) (name : String)
    [Has c arguments] : Has c (errorAttribute? arguments cause name) := by
  unfold errorAttribute?
  split <;> infer_instance

instance has_numberAttribute? (v : Value) (name : String) : Has c (numberAttribute? v name) := by
  unfold numberAttribute?
  split <;> infer_instance

instance has_builtinValue? (name : String) : Has c (builtinValue? name) := by
  unfold builtinValue?
  infer_instance

instance has_documentation? (v : Value) : Has c (documentation? v) := by
  unfold documentation?
  split <;> infer_instance

instance has_plainAttribute? (v : Value) (name : String) [Has c v] :
    Has c (plainAttribute? v name) := by
  unfold plainAttribute?
  refine .using v ?_
  split <;> infer_instance

instance apart_attribute? (v : Value) (name : String) [Has c v] : Apart c (attribute? v name) := by
  unfold attribute?
  repeat' first | infer_instance | split | exact Run.apart_expose_bind (Run.staysLost _) |
    with_reducible refine .bind ?_ fun _ => ?_ | exact .of_eq_some ‹_ = some _› inferInstance

instance apart_attributeOf (v : Value) (name : String) [Has c v] :
    Apart c (attributeOf v name) := by
  unfold attributeOf
  repeat' first | infer_instance | split | with_reducible refine .bind ?_ fun _ => ?_

/-! ### Fields of texts -/

instance apart_badFields {α : Type} [Valued α] (message : String) :
    Apart c (badFields message : Run α) := by
  unfold badFields
  infer_instance

instance apart_fieldName (inBrackets : Bool) (text : List Char) :
    Apart c (fieldName inBrackets text) := by
  fun_induction fieldName inBrackets text generalizing c <;> infer_instance

instance apart_fieldFormat (depth : Nat) (text : List Char) : Apart c (fieldFormat depth text) := by
  fun_induction fieldFormat depth text generalizing c <;> infer_instance

instance apart_readField (text : List Char) : Apart c (readField text) := by
  unfold readField
  repeat' first | infer_instance | split | with_reducible refine .bind ?_ fun _ => ?_

instance apart_followParts (n : Nat) (v : Value) (text : List Char) [Has c v] :
    Apart c (followParts n v text) := by
  fun_induction followParts n v text generalizing c with
  | case7 =>
    rename_i index _ _
    have (d : Facts V) : Has d index := by
      dsimp only [index]
      split <;> infer_instance
    infer_instance
  | _ => infer_instance

instance Numbering.apart_position (numbering : Numbering) (name : List Char) :
    Apart c (Numbering.position numbering name) := by
  unfold Numbering.position
  split <;> infer_instance

instance apart_convertField (conversion : Option Char) (v : Value) [Has c v] :
    Apart c (convertField conversion v) := by
  unfold convertField
  split <;> infer_instance

section

variable (arguments : FieldArguments) [Has c arguments.positions]
  [hnamed : ∀ name, Apart c (arguments.named name)]

include hnamed

instance apart_fieldValue (numbering : Numbering) (name : List Char) :
    Apart c (fieldValue arguments numbering name) := by
  have hnamed (d : Facts V) [Knows d c] (name : String) : Apart d (arguments.named name) :=
    .of_knows (hnamed name)
  unfold fieldValue
  refine .bind inferInstance fun ⟨position, numbering⟩ => ?_
  dsimp only
  repeat' first | infer_instance | split |
    exact .of_eq_some ‹arguments.positions = some _› (.of_eq_some ‹_[_]? = some _› inferInstance)

instance apart_fillFields (inner : Numbering → List Char → Run (String × Numbering))
    [hinner : ∀ numbering text, Apart c (inner numbering text)] (n : Nat) (numbering : Numbering)
    (text : List Char) : Apart c (fillFields inner arguments n numbering text) := by
  have hnamed (d : Facts V) [Knows d c] (name : String) : Apart d (arguments.named name) :=
    .of_knows (hnamed name)
  have hinner (d : Facts V) [Knows d c] (numbering : Numbering) (text : List Char) :
      Apart d (inner numbering text) := .of_knows (hinner numbering text)
  have hrun (d : Facts V) [Knows d c] [Has d arguments.positions] (n : Nat)
      (numbering : Numbering) (text : List Char) :
      Apart d (fillFields inner arguments n numbering text) := by
    fun_induction fillFields inner arguments n numbering text generalizing d
    all_goals repeat' first | infer_instance | split | dsimp only |
      with_reducible refine .bind ?_ fun _ => ?_
  exact hrun c n numbering text

instance apart_fillNested (n : Nat) (numbering : Numbering) (text : List Char) :
    Apart c (fillNested arguments n numbering text) := by
  induction n generalizing numbering text with
  | zero => exact Run.apart_raise _ _
  | succ n ih =>
    unfold fillNested
    infer_instance

end

instance apart_formatText (text : String) (positions : List Value) (keywords : Keywords)
    [Has c positions] [Has c keywords] : Apart c (formatText text positions keywords) := by
  have (name : String) : Apart c (match keywords.lookup name with
      | some v => pure v
      | none => throw (.error "KeyError" [.text name] none) : Run Value) := by
    split
    · exact .of_eq_some ‹_ = some _› inferInstance
    · infer_instance
  unfold formatText
  infer_instance

instance apart_formatTextFrom (text : String) (items : Value) [Has c items] :
    Apart c (formatTextFrom text items) := by
  unfold formatTextFrom
  infer_instance

/-! ### Functions -/

instance apart_lengthOf (v : Value) [Has c v] : Apart c (lengthOf v) := by
  unfold lengthOf
  refine .using v ?_
  split <;> infer_instance

instance apart_absolute (v : Value) : Apart c (absolute v) := by
  unfold absolute
  split <;> infer_instance

instance apart_quantify (all : Bool) (v : Value) [Has c v] : Apart c (quantify m all v) := by
  unfold quantify
  infer_instance

instance apart_quotientRemainder (a b : Value) : Apart c (quotientRemainder a b) := by
  unfold quotientRemainder
  split <;> infer_instance

instance apart_bestOf (op : CompareOp) (key : Value) (best : Option (Value × Value))
    (items : List Value) [Has c key] [Has c best] [Has c items] :
    Apart c (bestOf m op key best items) := by
  induction items generalizing best c with
  | nil => exact Run.apart_pure _
  | cons v items ih =>
    unfold bestOf
    refine .using (v :: items) (.using best ?_)
    repeat' first | infer_instance | split | dsimp only | refine .bind ?_ fun _ => ?_

instance apart_extreme (name : String) (op : CompareOp) (positions : List Value)
    (keywords : Keywords) [Has c positions] [Has c keywords] :
    Apart c (extreme m name op positions keywords) := by
  unfold extreme
  refine .using positions ?_
  repeat' first | infer_instance | split | with_reducible refine .bind ?_ fun _ => ?_

instance apart_sumOf (v start : Value) [Has c v] [Has c start] : Apart c (sumOf m v start) := by
  unfold sumOf
  split <;> infer_instance

instance apart_basedText (mark : String) (base : Nat) (v : Value) :
    Apart c (basedText mark base v) := by
  unfold basedText
  infer_instance

instance apart_powerOf (a b : Value) (modulus : Option Value) [Has c a] [Has c b] :
    Apart c (powerOf a b modulus) := by
  unfold powerOf
  repeat' first | infer_instance | split

instance apart_anyKind (what : String) (test : String → Bool) (n : Nat) (v : Value) [Has c v] :
    Apart c (anyKind what test n v) := by
  induction n generalizing v c with
  | zero => exact Run.apart_raise _ _
  | succ n ih =>
    unfold anyKind
    refine .using v ?_
    split <;> infer_instance

instance apart_printValues (positions : List Value) (separator ending : Option Value)
    [Has c positions] : Apart c (printValues positions separator ending) := by
  have houtput (d : Facts V) (text : String) :
      Apart d (modify fun s => { s with output := s.output ++ text } : Run PUnit) :=
    Run.apart_modify (fun _ h => h) (fun _ _ _ _ _ => rfl) fun _ _ h => h.keep rfl rfl rfl h.handled
  unfold printValues
  simp only [String.append_assoc]
  repeat' first | infer_instance | split

instance apart_nextOf (it : Value) (default : Option Value) [Has c it] [Has c default] :
    Apart c (nextOf m it default) := by
  unfold nextOf
  refine .using default ?_
  repeat' first | infer_instance | split | with_reducible refine .bind ?_ fun _ => ?_

instance apart_hashOf (v : Value) : Apart c (hashOf v) := by
  unfold hashOf
  infer_instance

instance apart_setAttribute (v : Value) (name : String) : Apart c (setAttribute v name) := by
  unfold setAttribute
  repeat' first | infer_instance | split

instance apart_callBuiltin (name : String) (positions : List Value) (keywords : Keywords)
    [Has c positions] [Has c keywords] : Apart c (callBuiltin m name positions keywords) := by
  unfold callBuiltin
  repeat' first | infer_instance | split | with_reducible refine .bind ?_ fun _ => ?_ |
    exact .of_eq_some ‹_ = some _› inferInstance

/-! ### Compilers -/

instance apart_fail {α : Type} [Valued α] (fault : Fault) : Apart c (fail fault : Run α) := by
  unfold fail
  cases fault.record? <;> infer_instance

instance apart_logSource (s : Source) : Apart c (logSource s) := by
  unfold logSource
  infer_instance

instance apart_readSource (settings : Settings) (v : Value) : Apart c (readSource settings v) := by
  unfold readSource
  repeat' first | infer_instance | split

instance apart_readBlockSource (v : Value) : Apart c (readBlockSource v) := by
  unfold readBlockSource
  split <;> infer_instance

instance apart_nullCharacter {α : Type} [Valued α] : Apart c (nullCharacter : Run α) := by
  unfold nullCharacter
  infer_instance

instance apart_makeFunction (scope : Scope) (code : Routine) (defaults : List (String × Value))
    [Admitted c scope code] [Has c defaults] : Apart c (makeFunction scope code defaults) := by
  unfold makeFunction
  infer_instance

instance apart_wrapCompiled (s : Source) (function : Value) [Has c function] :
    Apart c (wrapCompiled s function) := by
  unfold wrapCompiled
  infer_instance

/-- Global names stand in a new cell. -/
theorem apart_globalsFor_bind {α : Type} [Valued α] {namespace_ : Value} [Has c namespace_]
    {k : Nat → Run α} (hstays : ∀ address, (k address).StaysLost)
    (hk : ∀ address, address ≠ V.cell → Apart c (k address)) :
    Apart c (globalsFor m namespace_ >>= k) := by
  have hnew (d : Facts V) [Knows d c] (entries : Array (Value × Value)) [Has d entries] :
      Apart d (Run.alloc (.dict entries) >>= k) :=
    Run.apart_alloc_bind hstays fun address h => .of_knows (hk address h)
  unfold globalsFor
  simp only [bind_assoc]
  refine .bind inferInstance fun _ => ?_
  split
  · simp only [bind_assoc]
    exact .bind inferInstance fun _ => hnew _ _
  · simp only [pure_bind]
    exact hnew _ _

theorem foreign_of_ne {address : Nat} (h : address ≠ V.cell) (path : String) :
    Foreign c ⟨[], address, path⟩ :=
  ⟨fun _ => h, fun _ _ ha => nomatch ha⟩

instance apart_compileText (settings : Settings) (text namespace_ : Value) [Has c namespace_] :
    Apart c (compileText m settings text namespace_) := by
  unfold compileText
  refine .bind inferInstance fun s => ?_
  have hmake (d : Facts V) [Knows d c] [Has d namespace_] : Apart d (match sourceFunction s with
      | .error fault => fail fault
      | .ok (parameters, body) => do
        let scope : Scope := ⟨[], ← globalsFor m namespace_, ""⟩
        let code := lambdaRoutine (parameters.map Parameter.plain) body
        wrapCompiled s (← makeFunction scope code [])) := by
    split
    · infer_instance
    · dsimp only
      refine apart_globalsFor_bind m (fun _ => Run.staysLost _) fun address h => ?_
      have : Foreign d ⟨[], address, ""⟩ := foreign_of_ne h _
      infer_instance
  infer_instance

instance apart_compileBlock (text namespace_ : Value) [Has c namespace_] :
    Apart c (compileBlock m text namespace_) := by
  unfold compileBlock
  refine .bind inferInstance fun s => ?_
  have hmake (d : Facts V) [Knows d c] [Has d namespace_] : Apart d (match blockFunction s.text with
      | .error fault => fail fault
      | .ok code => do
        let scope : Scope := ⟨[], ← globalsFor m namespace_, ""⟩
        let function ← makeFunction scope code []
        dictSet scope.globals (.text blockName) function
        wrapCompiled s function) := by
    split
    · infer_instance
    · dsimp only
      refine apart_globalsFor_bind m (fun _ => Run.staysLost _) fun address h => ?_
      have : Foreign d ⟨[], address, ""⟩ := foreign_of_ne h _
      have : Away d address := Run.away_of_ne h
      infer_instance
  infer_instance

instance apart_compilerSettings (address : Nat) [Public c address] :
    Apart c (compilerSettings address) :=
  Run.apart_get_bind (fun _ => Run.staysLost _) fun {s s'} h hc =>
    ⟨by rw [h.compilers address (Public.ne hc)], (Run.apart_pure _).ends h hc⟩

instance apart_compilerCache (address : Nat) [Public c address] :
    Apart c (compilerCache address) :=
  Run.apart_get_bind (fun _ => Run.staysLost _) fun {s s'} h hc =>
    ⟨by rw [h.compilers address (Public.ne hc)],
      .same h (.refl _) (h.shows.caches address (Public.ne hc))⟩

instance apart_setCache (address : Nat) (cache : Cache String Value) [Public c address]
    [Has c cache] : Apart c (setCache address cache) :=
  ⟨Run.staysLost_modify fun _ h => h, fun {s s'} h hc => by
    have hne : address ≠ V.compiler := Public.ne hc
    have hcache : Valued.clear V s.world cache := Has.clear hc
    refine .same ⟨⟨h.shows.cell, ?_, h.shows.cells, h.shows.frames, h.shows.handled,
      fun a ha => ?_, h.shows.row⟩, ?_, h.size, h.cells, h.globals, ?_, fun a ha => ?_,
      h.framesSize, h.frames, h.row⟩ (.refl _) trivial
    · simpa only [Array.size_modify] using h.shows.compiler
    · rw [Array.getElem?_modify]
      split
      · cases s.compilers[a]? with
        | none => exact fun _ h => nomatch h
        | some k => exact fun _ hk => Option.some.inj hk ▸ hcache
      · exact h.shows.caches a ha
    · conv_lhs => rw [h.rest]
    · simp only [Array.size_modify, h.compilersSize]
    · simp only [Array.getElem?_modify, h.compilers a ha]⟩

instance apart_compileKept (address : Nat) (cache : Cache String Value) (text : Value)
    [Public c address] [Has c cache] : Apart c (compileKept m address cache text) := by
  unfold compileKept
  refine .bind inferInstance fun _ => ?_
  dsimp only
  split
  · infer_instance
  · next key _ =>
    have hfind : Has c (cache.find key) := inferInstance
    generalize cache.find key = found at hfind ⊢
    obtain ⟨found, cache'⟩ := found
    refine .using (found, cache') (.bind inferInstance fun _ => ?_)
    cases found with
    | some v => infer_instance
    | none =>
      refine .bind inferInstance fun _ => .bind inferInstance fun _ => .bind inferInstance fun _ => ?_
      split <;> infer_instance

instance apart_compileWith (address : Nat) (text namespace_ : Value) [Public c address]
    [Has c namespace_] : Apart c (compileWith m address text namespace_) := by
  unfold compileWith
  refine .bind inferInstance fun _ => ?_
  split <;> infer_instance

instance apart_cacheInfo (address : Nat) [Public c address] : Apart c (cacheInfo address) := by
  unfold cacheInfo
  infer_instance

/-! ### Methods -/

instance apart_ratioOf (x : Float) : Apart c (ratioOf x) := by
  unfold ratioOf
  split <;> infer_instance

instance apart_callNumberMethod (v : Value) (name : String) (positions : List Value)
    (keywords : Keywords) : Apart c (callNumberMethod v name positions keywords) := by
  unfold callNumberMethod
  split <;> infer_instance

instance apart_callBytesMethod (bytes : List UInt8) (name : String) (positions : List Value)
    (keywords : Keywords) : Apart c (callBytesMethod bytes name positions keywords) := by
  unfold callBytesMethod
  split <;> infer_instance

instance apart_cacheValue (address : Nat) [Public c address] : Apart c (cacheValue address) := by
  unfold cacheValue
  refine .bind inferInstance fun _ => ?_
  split <;> infer_instance

instance apart_callCompilerMethod (address : Nat) (name : String) (positions : List Value)
    (keywords : Keywords) [Public c address] [Has c positions] [Has c keywords] :
    Apart c (callCompilerMethod m address name positions keywords) := by
  unfold callCompilerMethod
  repeat' first | infer_instance | split | with_reducible refine .bind ?_ fun _ => ?_

instance apart_containsItem (container v : Value) [Has c container] [Has c v] :
    Apart c (containsItem m container v) := by
  unfold containsItem
  have (d : Facts V) [Has d v] (it : Value) [Has d it] : Apart d (foldItems m it
      (fun (_ : Unit) item => do
        if ← matches_ item v then return .inr true else return .inl ())
      (fun _ => return false) ()) :=
    inferInstance
  refine .bind inferInstance fun _ => ?_
  split
  · infer_instance
  · refine .bind inferInstance fun _ => .using container ?_
    split <;> infer_instance

instance apart_callOperation (v : Value) (name : String) (positions : List Value)
    (keywords : Keywords) [Has c v] [Has c positions] [Has c keywords] :
    Apart c (callOperation m v name positions keywords) := by
  unfold callOperation
  split <;> infer_instance

instance apart_callMethod (v : Value) (name : String) (positions : List Value)
    (keywords : Keywords) [Has c v] [Has c positions] [Has c keywords] :
    Apart c (callMethod m v name positions keywords) := by
  unfold callMethod
  refine .using v ?_
  repeat' first | infer_instance | split

instance apart_callClassMethod (owner name : String) (positions : List Value)
    (keywords : Keywords) [Has c positions] [Has c keywords] :
    Apart c (callClassMethod m owner name positions keywords) := by
  unfold callClassMethod
  refine .using positions ?_
  split <;> infer_instance

end LambdaText
