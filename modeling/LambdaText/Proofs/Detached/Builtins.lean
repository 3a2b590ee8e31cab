import LambdaText.Builtin.Method
import LambdaText.Proofs.Detached.Basic

/-!
# Built-in functions and methods are detached

What is built in calls functions and advances iterators by a machine. It is the same in all
surroundings if the answers of the machine are.
-/

namespace LambdaText

open LambdaText.Code LambdaText.Function LambdaText.Log LambdaText.Number LambdaText.Text

/-- A machine all of whose answers are detached. -/
class Machine.Detached (m : Machine) : Prop where
  expr (scope : Scope) (e : Expr) : (m.expr scope e).Detached
  block (scope : Scope) (b : List Stmt) : (m.block scope b).Detached
  call (f : Value) (positions : List Value) (keywords : List (String × Value)) :
    (m.call f positions keywords).Detached
  advance (address : Nat) : (m.advance address).Detached

attribute [instance] Machine.Detached.expr Machine.Detached.block Machine.Detached.call
  Machine.Detached.advance

instance (m : Machine) [m.Detached] : m.Related Run.detaching m where
  call _ _ _ := inferInstance
  advance _ := inferInstance

/-! ### Iteration -/

instance detached_takeItems (m : Machine) [m.Detached] (it : Value) (n : Nat) :
    (takeItems m it n).Detached := by
  fun_induction takeItems m it n
  all_goals repeat' first | infer_instance | split | with_reducible refine .bind ?_ fun _ => ?_

instance detached_unpackExactly (m : Machine) [m.Detached] (v : Value) (n : Nat) :
    (unpackExactly m v n).Detached := by
  unfold unpackExactly
  repeat' first | infer_instance | split | with_reducible refine .bind ?_ fun _ => ?_

/-! ### Arguments -/

instance detached_noKeywords (name : String) (keywords : Keywords) :
    (noKeywords name keywords).Detached := by
  unfold noKeywords
  infer_instance

instance detached_demandCount (name : String) (least most : Nat) (positions : List Value)
    (keywords : Keywords) : (demandCount name least most positions keywords).Detached := by
  unfold demandCount
  infer_instance

instance detached_shareArguments (name : String) (parameters : List String) (closed required : Nat)
    (positions : List Value) (keywords : Keywords) :
    (shareArguments name parameters closed required positions keywords).Detached := by
  unfold shareArguments
  dsimp only
  repeat' first | infer_instance | split

instance detached_demandIndex (v : Value) : (demandIndex v).Detached := by
  unfold demandIndex
  split <;> infer_instance

instance detached_demandText (what : String) (v : Value) : (demandText what v).Detached := by
  unfold demandText
  split <;> infer_instance

/-! ### Containers -/

instance detached_countMatches (v : Value) (items : List Value) :
    (countMatches v items).Detached := by
  fun_induction countMatches v items <;> infer_instance

instance detached_indexOf? (v : Value) (start : Nat) (items : List Value) :
    (indexOf? v start items).Detached := by
  fun_induction indexOf? v start items <;> infer_instance

instance detached_searchBound (v : Option Value) (size default : Nat) :
    (searchBound v size default).Detached := by
  unfold searchBound
  repeat' first | infer_instance | split

instance detached_indexMethod (items : List Value) (missing : Value → Run String)
    (positions : List Value) [∀ a, (missing a).Detached] :
    (indexMethod items missing positions).Detached := by
  unfold indexMethod
  repeat' first | infer_instance | split | with_reducible refine .bind ?_ fun _ => ?_

instance detached_sortValues (m : Machine) [m.Detached] (key : Value) (backwards : Bool)
    (items : List Value) : (sortValues m key backwards items).Detached := by
  unfold sortValues
  split <;> infer_instance

instance detached_sortOptions (name : String) (keywords : Keywords) :
    (sortOptions name keywords).Detached := by
  unfold sortOptions
  repeat' first | infer_instance | split | with_reducible refine .bind ?_ fun _ => ?_

instance detached_callListMethod (m : Machine) [m.Detached] (address : Nat) (name : String)
    (positions : List Value) (keywords : Keywords) :
    (callListMethod m address name positions keywords).Detached := by
  unfold callListMethod
  dsimp only
  repeat' first | infer_instance | split | with_reducible refine .bind ?_ fun _ => ?_

instance detached_callTupleMethod (items : List Value) (name : String) (positions : List Value)
    (keywords : Keywords) : (callTupleMethod items name positions keywords).Detached := by
  unfold callTupleMethod
  split <;> infer_instance

instance detached_callDictMethod (m : Machine) [m.Detached] (address : Nat) (name : String)
    (positions : List Value) (keywords : Keywords) :
    (callDictMethod m address name positions keywords).Detached := by
  unfold callDictMethod
  repeat' first | infer_instance | split | with_reducible refine .bind ?_ fun _ => ?_

instance detached_addItems (items : Array Value) (values : List Value) :
    (addItems items values).Detached := by
  fun_induction addItems items values <;> infer_instance

instance detached_setItemsOf (m : Machine) [m.Detached] (v : Value) :
    (setItemsOf m v).Detached := by
  unfold setItemsOf
  infer_instance

instance detached_callSetMethod (m : Machine) [m.Detached] (address : Nat) (name : String)
    (positions : List Value) (keywords : Keywords) :
    (callSetMethod m address name positions keywords).Detached := by
  unfold callSetMethod
  repeat' first | infer_instance | split | with_reducible refine .bind ?_ fun _ => ?_

/-! ### Classes -/

instance detached_constructInteger (positions : List Value) (keywords : Keywords) :
    (constructInteger positions keywords).Detached := by
  unfold constructInteger
  repeat' first | infer_instance | split | with_reducible refine .bind ?_ fun _ => ?_

instance detached_complexParts (v : Value) : (complexParts v).Detached := by
  unfold complexParts
  repeat' first | infer_instance | split

instance detached_constructComplex (positions : List Value) (keywords : Keywords) :
    (constructComplex positions keywords).Detached := by
  unfold constructComplex
  refine .bind inferInstance fun _ => ?_
  split <;> infer_instance

instance detached_decoded (bytes : List UInt8) : (decoded bytes).Detached := by
  unfold decoded
  split <;> infer_instance

instance detached_constructText (positions : List Value) (keywords : Keywords) :
    (constructText positions keywords).Detached := by
  unfold constructText
  refine .bind inferInstance fun _ => ?_
  split <;> infer_instance

instance detached_byteOf (v : Value) : (byteOf v).Detached := by
  unfold byteOf
  infer_instance

instance detached_constructBytes (m : Machine) [m.Detached] (positions : List Value) :
    (constructBytes m positions).Detached := by
  unfold constructBytes
  repeat' first | infer_instance | split

instance detached_constructRange (positions : List Value) :
    (constructRange positions).Detached := by
  unfold constructRange
  refine .bind inferInstance fun _ => ?_
  split <;> infer_instance

instance detached_constructReversed (m : Machine) [m.Detached] (v : Value) :
    (constructReversed m v).Detached := by
  unfold constructReversed
  split <;> infer_instance

instance detached_constructEnumerate (positions : List Value) (keywords : Keywords) :
    (constructEnumerate positions keywords).Detached := by
  unfold constructEnumerate
  repeat' first | infer_instance | split | with_reducible refine .bind ?_ fun _ => ?_

instance detached_constructCurried (m : Machine) [m.Detached] (positions : List Value)
    (keywords : Keywords) : (constructCurried m positions keywords).Detached := by
  unfold constructCurried
  repeat' first | infer_instance | split | with_reducible refine .bind ?_ fun _ => ?_

instance detached_constructTemplate (m : Machine) [m.Detached] (positions : List Value)
    (keywords : Keywords) : (constructTemplate m positions keywords).Detached := by
  unfold constructTemplate
  refine .bind inferInstance fun _ => ?_
  split <;> infer_instance

instance detached_construct (m : Machine) [m.Detached] (kind : String) (positions : List Value)
    (keywords : Keywords) : (construct m kind positions keywords).Detached := by
  unfold construct
  repeat' first | infer_instance | split | with_reducible refine .bind ?_ fun _ => ?_

/-! ### Texts -/

instance detached_newTexts (texts : List (List Char)) : (newTexts texts).Detached := by
  unfold newTexts
  infer_instance

instance detached_joinTexts (separator : String) (i : Nat) (items : List Value) :
    (joinTexts separator i items).Detached := by
  fun_induction joinTexts separator i items <;> infer_instance

instance detached_optionalBound (v : Option Value) : (optionalBound v).Detached := by
  unfold optionalBound
  split <;> infer_instance

instance detached_boundedPart (text : List Char) (first last : Option Value) :
    (boundedPart text first last).Detached := by
  unfold boundedPart
  infer_instance

instance detached_limitOf (v : Option Value) (text : List Char) : (limitOf v text).Detached := by
  unfold limitOf
  split <;> infer_instance

instance detached_hasEnd (name : String) (test : List Char → Bool) (v : Value) :
    (hasEnd name test v).Detached := by
  have (item : Value) : (match item with
      | .text s => return s.toList
      | other => Run.raise "TypeError"
          s!"tuple for {name} must only contain str, not {other.kindName}" :
        Run (List Char)).Detached := by
    split <;> infer_instance
  unfold hasEnd
  split <;> infer_instance

instance detached_fillChar (v : Option Value) : (fillChar v).Detached := by
  unfold fillChar
  repeat' first | infer_instance | split

instance detached_stripMethod (text : List Char) (name : String) (argument : Option Value) :
    (stripMethod text name argument).Detached := by
  unfold stripMethod
  dsimp only
  split <;> infer_instance

instance detached_searchMethod (text : List Char) (name : String) (positions : List Value) :
    (searchMethod text name positions).Detached := by
  unfold searchMethod
  dsimp only
  repeat' first | infer_instance | split | with_reducible refine .bind ?_ fun _ => ?_

instance detached_splitMethod (text : List Char) (name : String) (positions : List Value)
    (keywords : Keywords) : (splitMethod text name positions keywords).Detached := by
  unfold splitMethod
  repeat' first | infer_instance | split | with_reducible refine .bind ?_ fun _ => ?_

instance detached_fillMethod (text : List Char) (name : String) (positions : List Value) :
    (fillMethod text name positions).Detached := by
  unfold fillMethod
  infer_instance

instance detached_callTextMethod (m : Machine) [m.Detached] (s name : String)
    (positions : List Value) (keywords : Keywords) :
    (callTextMethod m s name positions keywords).Detached := by
  unfold callTextMethod
  dsimp only
  repeat' first | infer_instance | split | with_reducible refine .bind ?_ fun _ => ?_

/-! ### Attributes -/

instance detached_sourceAttribute? (serial : Nat) (s : Source) (name : String) :
    (sourceAttribute? serial s name).Detached := by
  unfold sourceAttribute?
  split <;> infer_instance

instance detached_libraryAttribute? (v : Value) (name : String) :
    (libraryAttribute? v name).Detached := by
  have (a : Nat) : (do
      return ((← get).compilers[a]?).map fun c => .settings a c.settings :
        Run (Option Value)).Detached :=
    Run.detached_get_bind (fun _ => inferInstance) fun _ _ _ _ => rfl
  unfold libraryAttribute?
  repeat' first | infer_instance | split

instance detached_attribute? (v : Value) (name : String) : (attribute? v name).Detached := by
  unfold attribute?
  repeat' first | infer_instance | split | with_reducible refine .bind ?_ fun _ => ?_

instance detached_attributeOf (v : Value) (name : String) : (attributeOf v name).Detached := by
  unfold attributeOf
  repeat' first | infer_instance | split | with_reducible refine .bind ?_ fun _ => ?_

instance detached_setAttribute (v : Value) (name : String) : (setAttribute v name).Detached := by
  unfold setAttribute
  repeat' first | infer_instance | split

/-! ### Fields of texts -/

instance detached_badFields {α : Type} (message : String) :
    (badFields message : Run α).Detached := by
  unfold badFields
  infer_instance

instance detached_fieldName (inBrackets : Bool) (text : List Char) :
    (fieldName inBrackets text).Detached := by
  fun_induction fieldName inBrackets text <;> infer_instance

instance detached_fieldFormat (depth : Nat) (text : List Char) :
    (fieldFormat depth text).Detached := by
  fun_induction fieldFormat depth text <;> infer_instance

instance detached_readField (text : List Char) : (readField text).Detached := by
  unfold readField
  repeat' first | infer_instance | split | with_reducible refine .bind ?_ fun _ => ?_

instance detached_followParts (n : Nat) (v : Value) (text : List Char) :
    (followParts n v text).Detached := by
  fun_induction followParts n v text <;> infer_instance

instance Numbering.detached_position (numbering : Numbering) (name : List Char) :
    (Numbering.position numbering name).Detached := by
  unfold Numbering.position
  split <;> infer_instance

instance detached_fieldValue (arguments : FieldArguments)
    [∀ name, (arguments.named name).Detached] (numbering : Numbering) (name : List Char) :
    (fieldValue arguments numbering name).Detached := by
  unfold fieldValue
  repeat' first | infer_instance | split | with_reducible refine .bind ?_ fun _ => ?_

instance detached_convertField (conversion : Option Char) (v : Value) :
    (convertField conversion v).Detached := by
  unfold convertField
  split <;> infer_instance

instance detached_fillFields (inner : Numbering → List Char → Run (String × Numbering))
    [∀ numbering text, (inner numbering text).Detached] (arguments : FieldArguments)
    [∀ name, (arguments.named name).Detached] (n : Nat) (numbering : Numbering) (text : List Char) :
    (fillFields inner arguments n numbering text).Detached := by
  fun_induction fillFields inner arguments n numbering text <;> infer_instance

instance detached_fillNested (arguments : FieldArguments)
    [∀ name, (arguments.named name).Detached] (n : Nat) (numbering : Numbering) (text : List Char) :
    (fillNested arguments n numbering text).Detached := by
  induction n generalizing numbering text with
  | zero => exact Run.respects_raise _ _
  | succ n ih =>
    unfold fillNested
    infer_instance

instance detached_formatText (text : String) (positions : List Value) (keywords : Keywords) :
    (formatText text positions keywords).Detached := by
  have (name : String) : (match keywords.lookup name with
      | some v => pure v
      | none => throw (.error "KeyError" [.text name] none) : Run Value).Detached := by
    split <;> infer_instance
  unfold formatText
  infer_instance

instance detached_formatTextFrom (text : String) (items : Value) :
    (formatTextFrom text items).Detached := by
  unfold formatTextFrom
  infer_instance

/-! ### Functions -/

instance detached_lengthOf (v : Value) : (lengthOf v).Detached := by
  unfold lengthOf
  split <;> infer_instance

instance detached_absolute (v : Value) : (absolute v).Detached := by
  unfold absolute
  split <;> infer_instance

instance detached_quantify (m : Machine) [m.Detached] (all : Bool) (v : Value) :
    (quantify m all v).Detached := by
  unfold quantify
  infer_instance

instance detached_quotientRemainder (a b : Value) : (quotientRemainder a b).Detached := by
  unfold quotientRemainder
  split <;> infer_instance

instance detached_bestOf (m : Machine) [m.Detached] (op : CompareOp) (key : Value)
    (best : Option (Value × Value)) (items : List Value) : (bestOf m op key best items).Detached := by
  induction items generalizing best with
  | nil => exact Run.respects_pure _
  | cons v items ih =>
    unfold bestOf
    repeat' first | infer_instance | split

instance detached_extreme (m : Machine) [m.Detached] (name : String) (op : CompareOp)
    (positions : List Value) (keywords : Keywords) :
    (extreme m name op positions keywords).Detached := by
  unfold extreme
  repeat' first | infer_instance | split | with_reducible refine .bind ?_ fun _ => ?_

instance detached_sumOf (m : Machine) [m.Detached] (v start : Value) :
    (sumOf m v start).Detached := by
  unfold sumOf
  split <;> infer_instance

instance detached_basedText (mark : String) (base : Nat) (v : Value) :
    (basedText mark base v).Detached := by
  unfold basedText
  infer_instance

instance detached_powerOf (a b : Value) (modulus : Option Value) :
    (powerOf a b modulus).Detached := by
  unfold powerOf
  repeat' first | infer_instance | split

instance detached_anyKind (what : String) (test : String → Bool) (n : Nat) (v : Value) :
    (anyKind what test n v).Detached := by
  induction n generalizing v with
  | zero => exact Run.respects_raise _ _
  | succ n ih =>
    unfold anyKind
    split <;> infer_instance

instance detached_printValues (positions : List Value) (separator ending : Option Value) :
    (printValues positions separator ending).Detached := by
  unfold printValues
  dsimp only
  repeat' first | infer_instance | split | with_reducible refine .bind ?_ fun _ => ?_ |
    exact Run.respects_modify (fun _ _ _ _ => rfl) (fun _ => rfl) fun _ h => h

instance detached_nextOf (m : Machine) [m.Detached] (it : Value) (default : Option Value) :
    (nextOf m it default).Detached := by
  unfold nextOf
  repeat' first | infer_instance | split | with_reducible refine .bind ?_ fun _ => ?_

instance detached_hashOf (v : Value) : (hashOf v).Detached := by
  unfold hashOf
  infer_instance

instance detached_callBuiltin (m : Machine) [m.Detached] (name : String) (positions : List Value)
    (keywords : Keywords) : (callBuiltin m name positions keywords).Detached := by
  unfold callBuiltin
  repeat' first | infer_instance | split | with_reducible refine .bind ?_ fun _ => ?_

/-! ### Compilers -/

theorem blind_setCache (address : Nat) (cache : Cache String Value) :
    (setCache address cache).Blind :=
  Run.blind_modify fun _ _ _ _ => rfl

theorem mem_withCache {compilers : Array Compiler} {address : Nat} {cache : Cache String Value}
    {c : Compiler} (h : c ∈ withCache compilers address cache) :
    c ∈ compilers ∨
      ∃ c', compilers[address]? = some c' ∧ c = { c' with cache := some cache } := by
  obtain ⟨i, hi⟩ := Array.mem_iff_getElem?.1 h
  rw [withCache, Array.getElem?_modify] at hi
  split at hi
  · next heq =>
    obtain ⟨c', hc', rfl⟩ := Option.map_eq_some_iff.1 hi
    exact .inr ⟨c', heq ▸ hc', rfl⟩
  · exact .inl (Array.mem_of_getElem? hi)

/-- Replacing the cache of a compiler by one that keeps what the compiler makes. -/
theorem State.Sound.withCache {s : State} (hs : s.Sound) {address : Nat}
    {cache : Cache String Value} (h : ∀ c, s.compilers[address]? = some c →
      ∀ entry ∈ cache.entries, IsCompiledFrom c.settings entry.1 entry.2) :
    State.Sound { s with compilers := withCache s.compilers address cache } := by
  intro c hc
  obtain hold | ⟨c', hc', rfl⟩ := mem_withCache hc
  · exact hs c hold
  · rintro _ ⟨⟩
    exact h c' hc'

theorem blind_compileKept (m : Machine) [m.Detached] (address : Nat) (cache : Cache String Value)
    (text : Value) : (compileKept m address cache text).Blind := by
  unfold compileKept
  refine .bind (Run.Detached.blind inferInstance) fun _ => ?_
  dsimp only
  split
  · exact .bind (blind_setCache _ _) fun _ => (Run.Detached.blind inferInstance)
  · refine .bind (blind_setCache _ _) fun _ => ?_
    split
    · exact (Run.Detached.blind inferInstance)
    · refine .bind (Run.Detached.blind inferInstance) fun _ =>
        .bind (Run.Detached.blind inferInstance) fun _ =>
          .bind (Run.Detached.blind inferInstance) fun cache => ?_
      split
      · exact .bind (blind_setCache _ _) fun _ => (Run.Detached.blind inferInstance)
      · exact (Run.Detached.blind inferInstance)

theorem entries_of_find_eq_none {cache cache' : Cache String Value} {text : String}
    (h : cache.find text = (none, cache')) : cache'.entries = cache.entries := by
  unfold Cache.find at h
  split at h <;> cases h
  rfl

theorem mem_entries_of_find {cache cache' : Cache String Value} {text : String} {v : Value}
    (h : cache.find text = (some v, cache')) {entry : String × Value}
    (hentry : entry ∈ cache'.entries) : entry ∈ cache.entries := by
  unfold Cache.find at h
  split at h
  · next found hfound =>
    cases h
    obtain rfl | hmem := List.mem_cons.1 hentry
    · exact List.mem_of_find?_eq_some hfound
    · exact (List.mem_filter.1 hmem).1
  · cases h

theorem mem_entries_store {cache : Cache String Value} {text : String} {v : Value}
    {entry : String × Value} (h : entry ∈ (cache.store text v).entries) :
    entry = (text, v) ∨ entry ∈ cache.entries := by
  obtain rfl | hmem := List.mem_cons.1 (List.mem_of_mem_take h)
  · exact .inl rfl
  · exact .inr (List.mem_filter.1 hmem).1

theorem keepsSound_compileDirectly {m : Machine}
    (hcompile : ∀ settings text given, (compileText m settings text given).KeepsSound)
    (address : Nat) (text given : Value) :
    (do compileText m (← compilerSettings address) text given : Run Value).KeepsSound :=
  .bind (Run.Detached.sound inferInstance) fun settings => hcompile settings text given

theorem sound_compileKept {m : Machine}
    (hcompile : ∀ settings text given, (compileText m settings text given).KeepsSound)
    {address : Nat} {settings : Settings} {cache : Cache String Value} (v : Value) {s t : State}
    {result : Except Value Value} (hs : s.Sound)
    (hc : s.compilers[address]? = some ⟨settings, some cache⟩)
    (h : (compileKept m address cache v).ends s = some (result, t)) : t.Sound := by
  have hentries : ∀ entry ∈ cache.entries, IsCompiledFrom settings entry.1 entry.2 :=
    hs _ (Array.mem_of_getElem? hc) cache rfl
  have hkeep : ∀ cache' : Cache String Value,
      (∀ entry ∈ cache'.entries, IsCompiledFrom settings entry.1 entry.2) →
        State.Sound { s with compilers := withCache s.compilers address cache' } :=
    fun cache' hcache' => hs.withCache fun c hc' => by
      rw [hc] at hc'
      cases hc'
      exact hcache'
  by_cases htext : ∃ text, v = .text text
  · obtain ⟨text, rfl⟩ := htext
    cases hfind : cache.find text with
    | mk found cache' =>
      cases found with
      | some v =>
        rw [ends_compileKept_found m address hfind s] at h
        cases h
        exact hkeep cache' fun entry hentry => hentries entry (mem_entries_of_find hfind hentry)
      | none =>
        obtain ⟨log, hend⟩ := ends_compileKept_missed m hfind hc
        rw [hend] at h
        rw [← entries_of_find_eq_none hfind] at hentries
        cases hresult : compileResult settings text with
        | error e =>
          rw [hresult] at h
          cases h
          exact hkeep cache' hentries
        | ok made =>
          rw [hresult] at h
          cases h
          refine hkeep _ fun entry hentry => ?_
          obtain rfl | hmem := mem_entries_store hentry
          · exact isCompiledFrom_compiledFunction hresult _ s
          · exact hentries entry hmem
  · have hkept : compileKept m address cache v = (do
        demandKey v
        setCache address { cache with misses := cache.misses + 1 }
        compileText m (← compilerSettings address) v .none) := by
      cases v with
      | text text => exact absurd ⟨text, rfl⟩ htext
      | _ => rfl
    obtain ⟨key, hkey⟩ := ends_demandKey v s
    cases key with
    | error e =>
      rw [hkept, Run.ends_bind_of_error hkey] at h
      cases h
      exact hs
    | ok _ =>
      rw [hkept, Run.ends_bind_of_ok hkey, Run.ends_bind_of_ok (ends_setCache address _ s)] at h
      exact keepsSound_compileDirectly hcompile address v .none
        (hkeep { cache with misses := cache.misses + 1 } hentries) h

theorem keepsSound_compileWith {m : Machine}
    (hcompile : ∀ settings text given, (compileText m settings text given).KeepsSound)
    (address : Nat) (text given : Value) : (compileWith m address text given).KeepsSound := by
  intro s t result hs h
  rw [compileWith, Run.ends_bind_of_ok (ends_compilerCache address s)] at h
  split at h
  · next cache hcache =>
    obtain ⟨c, hc, hsome⟩ := Option.bind_eq_some_iff.1 hcache
    obtain ⟨settings, cache'⟩ := c
    obtain rfl : cache' = some cache := hsome
    exact sound_compileKept hcompile text hs hc h
  · exact keepsSound_compileDirectly hcompile address text _ hs h

instance detached_compileWith (m : Machine) [m.Detached] (address : Nat) (text given : Value) :
    (compileWith m address text given).Detached := by
  have hdirect : (do compileText m (← compilerSettings address) text given :
      Run Value).Detached := inferInstance
  refine Run.IsDetached.detached ⟨?_, keepsSound_compileWith
    (fun _ _ _ => Run.Detached.sound inferInstance) address text given⟩
  unfold compileWith
  refine .bind (Run.Detached.blind inferInstance) fun cache => ?_
  split
  · exact blind_compileKept m address _ text
  · exact hdirect.blind

instance detached_cacheInfo (address : Nat) : (cacheInfo address).Detached := by
  unfold cacheInfo
  infer_instance

/-! ### Methods -/

instance detached_ratioOf (x : Float) : (ratioOf x).Detached := by
  unfold ratioOf
  split <;> infer_instance

instance detached_callNumberMethod (v : Value) (name : String) (positions : List Value)
    (keywords : Keywords) : (callNumberMethod v name positions keywords).Detached := by
  unfold callNumberMethod
  split <;> infer_instance

instance detached_callBytesMethod (bytes : List UInt8) (name : String) (positions : List Value)
    (keywords : Keywords) : (callBytesMethod bytes name positions keywords).Detached := by
  unfold callBytesMethod
  split <;> infer_instance

instance detached_cacheValue (address : Nat) : (cacheValue address).Detached := by
  unfold cacheValue
  refine .bind inferInstance fun _ => ?_
  split <;> infer_instance

instance detached_callCompilerMethod (m : Machine) [m.Detached] (address : Nat) (name : String)
    (positions : List Value) (keywords : Keywords) :
    (callCompilerMethod m address name positions keywords).Detached := by
  unfold callCompilerMethod
  repeat' first | infer_instance | split | with_reducible refine .bind ?_ fun _ => ?_

instance detached_containsItem (m : Machine) [m.Detached] (container v : Value) :
    (containsItem m container v).Detached := by
  unfold containsItem
  repeat' first | infer_instance | split | with_reducible refine .bind ?_ fun _ => ?_

instance detached_callOperation (m : Machine) [m.Detached] (v : Value) (name : String)
    (positions : List Value) (keywords : Keywords) :
    (callOperation m v name positions keywords).Detached := by
  unfold callOperation
  split <;> infer_instance

instance detached_callMethod (m : Machine) [m.Detached] (v : Value) (name : String)
    (positions : List Value) (keywords : Keywords) :
    (callMethod m v name positions keywords).Detached := by
  unfold callMethod
  repeat' first | infer_instance | split

instance detached_callClassMethod (m : Machine) [m.Detached] (owner name : String)
    (positions : List Value) (keywords : Keywords) :
    (callClassMethod m owner name positions keywords).Detached := by
  unfold callClassMethod
  split <;> infer_instance

end LambdaText
