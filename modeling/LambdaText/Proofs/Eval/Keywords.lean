import LambdaText.Proofs.Eval.CompileAnew
import Mathlib.Data.List.Lookmap
import Mathlib.Data.List.Perm.Lattice

/-!
# Arguments by position and by name

A function with plain parameters takes its arguments by position or by name. If positions and
keywords together give every parameter one argument, the call is the one with all arguments by
position; in all other cases it is refused before anything is evaluated. A compiled text refuses one
name more: the one under which it takes itself.
-/

namespace LambdaText

open LambdaText.Code

/-! ### Sharing out -/

/-- Whether a computation fails with a type error in every state, which it leaves as it is. -/
def Run.Refuses {α : Type} (r : Run α) : Prop :=
  ∃ message, ∀ s, r.ends s = some (.error (.error "TypeError" [.text message] none), s)

theorem refuses_raise {α : Type} (message : String) :
    (Run.raise "TypeError" message : Run α).Refuses := ⟨message, fun _ => rfl⟩

theorem Run.Refuses.of_ends {α β : Type} {r : Run α} {a : α} (h : ∀ s, r.ends s = some (.ok a, s))
    {f : α → Run β} (hf : (f a).Refuses) : (r >>= f).Refuses := by
  obtain ⟨message, hends⟩ := hf
  exact ⟨message, fun s => (Run.ends_bind_of_ok (h s) f).trans (hends s)⟩

theorem Run.Refuses.bind {α β : Type} {r : Run α} (h : r.Refuses) (f : α → Run β) :
    (r >>= f).Refuses := by
  obtain ⟨message, hends⟩ := h
  exact ⟨message, fun s => Run.ends_bind_of_error (hends s) f⟩

/-- Whether keywords are names of parameters, none of them twice or bound already. -/
structure Acceptable (names : List String) (bound keywords : List (String × Value)) : Prop where
  mem : ∀ k ∈ keywords.map Prod.fst, k ∈ names
  notBound : ∀ k ∈ keywords.map Prod.fst, k ∉ bound.map Prod.fst
  nodup : (keywords.map Prod.fst).Nodup

theorem acceptable_cons {names : List String} {bound rest : List (String × Value)} {k : String}
    {v : Value} : Acceptable names bound ((k, v) :: rest) ↔
      k ∈ names ∧ k ∉ bound.map Prod.fst ∧ Acceptable names (bound ++ [(k, v)]) rest := by
  constructor
  · rintro ⟨hmem, hbound, hnodup⟩
    rw [List.map_cons, List.nodup_cons] at hnodup
    simp only [List.map_cons, List.forall_mem_cons] at hmem hbound
    refine ⟨hmem.1, hbound.1, hmem.2, fun n hn hin => ?_, hnodup.2⟩
    rw [List.map_append, List.map_singleton, List.mem_append, List.mem_singleton] at hin
    rcases hin with hin | rfl
    · exact hbound.2 n hn hin
    · exact hnodup.1 hn
  · rintro ⟨hk, hkbound, hmem, hbound, hnodup⟩
    refine ⟨?_, ?_, ?_⟩
    · simpa using ⟨hk, by simpa using hmem⟩
    · rw [List.map_cons, List.forall_mem_cons]
      exact ⟨hkbound, fun n hn hin => hbound n hn (by simp [List.map_append, hin])⟩
    · rw [List.map_cons, List.nodup_cons]
      exact ⟨fun hin => hbound k hin (by simp), hnodup⟩

theorem takesKeyword_plain (names : List String) (k : String) :
    ((ofKinds (names.map Parameter.plain) [.standard, .keywordOnly]).any fun p => p.name == k) =
      decide (k ∈ names) := by
  have hall : ofKinds (names.map Parameter.plain) [.standard, .keywordOnly] =
      names.map Parameter.plain := by
    rw [ofKinds, List.filter_eq_self]
    simp [Parameter.plain, Parameter.kind]
  rw [hall, List.any_map, Bool.eq_iff_iff]
  simp [Parameter.plain, Parameter.name]

theorem nameOfKind?_plain (names : List String) {kind : ParameterKind} (h : kind ≠ .standard) :
    nameOfKind? (names.map Parameter.plain) kind = none := by
  rw [nameOfKind?, ofKinds_plain_eq_nil names h, List.head?_nil, Option.map_none]

theorem isBound_eq (bound : List (String × Value)) (k : String) :
    (bound.any fun b => b.1 == k) = decide (k ∈ bound.map Prod.fst) := by
  rw [Bool.eq_iff_iff]
  simp

/-- Acceptable keywords go behind what is bound. -/
theorem ends_bindKeywords_plain {names : List String} {bound keywords : List (String × Value)}
    (h : Acceptable names bound keywords) (name : String) (s : State) :
    (bindKeywords name (names.map Parameter.plain) bound [] keywords).ends s =
      some (.ok (bound ++ keywords, []), s) := by
  induction keywords generalizing bound with
  | nil => rw [List.append_nil]; rfl
  | cons entry rest ih =>
    obtain ⟨k, v⟩ := entry
    obtain ⟨hk, hbound, hrest⟩ := acceptable_cons.1 h
    rw [bindKeywords, takesKeyword_plain, isBound_eq]
    simp only [hk, hbound, decide_true, decide_false, if_true, Bool.false_eq_true, if_false]
    rw [ih hrest, List.append_assoc, List.singleton_append]

theorem refuses_bindKeywords_plain {names : List String} {bound keywords : List (String × Value)}
    (h : ¬ Acceptable names bound keywords) (name : String) :
    (bindKeywords name (names.map Parameter.plain) bound [] keywords).Refuses := by
  induction keywords generalizing bound with
  | nil => exact absurd ⟨by simp, by simp, by simp⟩ h
  | cons entry rest ih =>
    obtain ⟨k, v⟩ := entry
    rw [bindKeywords, takesKeyword_plain, isBound_eq, nameOfKind?_plain names (by decide)]
    by_cases hk : k ∈ names
    · by_cases hbound : k ∈ bound.map Prod.fst
      · simp only [hk, hbound, decide_true, if_true]
        exact refuses_raise _
      · simp only [hk, hbound, decide_true, decide_false, if_true, Bool.false_eq_true, if_false]
        exact ih fun hrest => h (acceptable_cons.2 ⟨hk, hbound, hrest⟩)
    · simp only [hk, decide_false, Bool.false_eq_true, if_false, Option.isSome_none]
      split <;> exact refuses_raise _

/-- Whether positions and keywords together give every parameter one argument: there are not too
many positions, and the keywords are the parameters without a position, in some order. -/
def Supplies (names : List String) (positions : List Value)
    (keywords : List (String × Value)) : Prop :=
  positions.length ≤ names.length ∧
    (keywords.map Prod.fst).Perm (names.drop positions.length)

theorem map_fst_zip_take (names : List String) (positions : List Value) :
    (names.zip positions).map Prod.fst = names.take positions.length := by
  induction names generalizing positions with
  | nil => simp
  | cons n names ih => cases positions <;> simp [ih]

/-- Every parameter has one argument if the keywords are acceptable and no parameter is missing. -/
theorem supplies_iff {names : List String} (hnames : names.Nodup) {positions : List Value}
    {keywords : List (String × Value)} :
    Supplies names positions keywords ↔ Acceptable names (names.zip positions) keywords ∧
      positions.length ≤ names.length ∧
      ∀ n ∈ names, n ∈ (names.zip positions ++ keywords).map Prod.fst := by
  have hsplit := List.take_append_drop positions.length names
  have hdisjoint : List.Disjoint (names.take positions.length) (names.drop positions.length) :=
    List.disjoint_of_nodup_append (by rwa [hsplit])
  have hmem : ∀ n, n ∈ names ↔ n ∈ names.take positions.length ∨
      n ∈ names.drop positions.length := fun n => by
    rw [← List.mem_append, hsplit]
  rw [List.map_append, map_fst_zip_take]
  constructor
  · rintro ⟨hle, hperm⟩
    refine ⟨⟨fun k hk => ?_, fun k hk hin => ?_, ?_⟩, hle, fun n hn => ?_⟩
    · exact List.mem_of_mem_drop (hperm.mem_iff.1 hk)
    · rw [map_fst_zip_take] at hin
      exact hdisjoint hin (hperm.mem_iff.1 hk)
    · exact hperm.nodup_iff.2 (hnames.sublist (List.drop_sublist _ _))
    · rw [List.mem_append, hperm.mem_iff]
      exact (hmem n).1 hn
  · rintro ⟨⟨hkeys, hbound, hnodup⟩, hle, hall⟩
    refine ⟨hle, ?_⟩
    rw [List.perm_ext_iff_of_nodup hnodup (hnames.sublist (List.drop_sublist _ _))]
    refine fun n => ⟨fun hn => ?_, fun hn => ?_⟩
    · refine ((hmem n).1 (hkeys n hn)).resolve_left fun hin => hbound n hn ?_
      rwa [map_fst_zip_take]
    · refine (List.mem_append.1 (hall n (List.mem_of_mem_drop hn))).resolve_left fun hin => ?_
      exact hdisjoint hin hn

/-- The parameters that are not bound. -/
def unbound (names : List String) (bound : List (String × Value)) : List String :=
  names.filter fun n => !(bound.any fun b => b.1 == n)

theorem unbound_nil (bound : List (String × Value)) : unbound [] bound = [] := rfl

theorem unbound_eq_nil {names : List String} {bound : List (String × Value)} :
    unbound names bound = [] ↔ ∀ n ∈ names, n ∈ bound.map Prod.fst := by
  rw [unbound, List.filter_eq_nil_iff]
  exact forall₂_congr fun n _ => by rw [isBound_eq]; simp

theorem filter_unbound (names : List String) (bound : List (String × Value)) :
    (names.filter fun n => !(bound.any fun b => b.1 == n) &&
      !(([] : List (String × Value)).lookup n).isSome) = unbound names bound := by
  simp only [List.lookup_nil, Option.isSome_none, Bool.not_false, Bool.and_true, unbound]

theorem ends_bindArguments_supplied {names : List String} (hnames : names.Nodup)
    {positions : List Value} {keywords : List (String × Value)}
    (h : Supplies names positions keywords) (name : String) (s : State) :
    (bindArguments name (names.map Parameter.plain) [] positions keywords).ends s =
      some (.ok (names.zip positions ++ keywords), s) := by
  obtain ⟨hacceptable, hle, hall⟩ := (supplies_iff hnames).1 h
  have hkeywordOnly := ofKinds_plain_eq_nil names (show ParameterKind.keywordOnly ≠ _ by decide)
  rw [bindArguments, positionalParameters_plain,
    Run.ends_bind_of_ok (ends_bindKeywords_plain hacceptable name s)]
  simp only [filter_unbound, unbound_eq_nil.2 hall, hkeywordOnly, List.map_nil, unbound_nil,
    Nat.not_lt.2 hle,
    nameOfKind?_plain names (show ParameterKind.variadic ≠ .standard by decide),
    nameOfKind?_plain names (show ParameterKind.keywords ≠ .standard by decide)]
  simp

theorem refuses_bindArguments_plain {names : List String} (hnames : names.Nodup)
    {positions : List Value} {keywords : List (String × Value)}
    (h : ¬ Supplies names positions keywords) (name : String) :
    (bindArguments name (names.map Parameter.plain) [] positions keywords).Refuses := by
  rw [bindArguments, positionalParameters_plain]
  by_cases hacceptable : Acceptable names (names.zip positions) keywords
  · refine .of_ends (ends_bindKeywords_plain hacceptable name) ?_
    by_cases hle : positions.length ≤ names.length
    · have hmissing : unbound names (names.zip positions ++ keywords) ≠ [] := fun hnil =>
        h ((supplies_iff hnames).2 ⟨hacceptable, hle, unbound_eq_nil.1 hnil⟩)
      simp only [filter_unbound, Nat.not_lt.2 hle, decide_false, Bool.false_and,
        Bool.false_eq_true, if_false, List.isEmpty_eq_false_iff.2 hmissing, Bool.not_false, if_true]
      exact (refuses_raise _).bind _
    · simp only [nameOfKind?_plain names (show ParameterKind.variadic ≠ .standard by decide),
        Nat.lt_of_not_le hle, decide_true, Option.isNone_none, Bool.and_true, if_true]
      exact (refuses_raise _).bind _
  · exact (refuses_bindKeywords_plain hacceptable name).bind _

/-! ### Arguments in order -/

def argumentsInOrder (names : List String) (positions : List Value)
    (keywords : List (String × Value)) : List Value :=
  positions ++ (names.drop positions.length).map fun n => (keywords.lookup n).getD .none

theorem length_argumentsInOrder {names : List String} {positions : List Value}
    (h : positions.length ≤ names.length) (keywords : List (String × Value)) :
    names.length = (argumentsInOrder names positions keywords).length := by
  simp [argumentsInOrder]
  omega

theorem zip_argumentsInOrder {names : List String} {positions : List Value}
    (h : positions.length ≤ names.length) (keywords : List (String × Value)) :
    names.zip (argumentsInOrder names positions keywords) =
      names.zip positions ++ (names.drop positions.length).map fun n =>
        (n, (keywords.lookup n).getD .none) := by
  induction names generalizing positions with
  | nil =>
    obtain rfl := List.length_eq_zero_iff.1 (Nat.le_zero.1 h)
    rfl
  | cons n names ih =>
    cases positions with
    | nil =>
      have := @ih [] (Nat.zero_le _)
      simpa [argumentsInOrder] using this
    | cons a positions =>
      have := ih (Nat.le_of_succ_le_succ h)
      simpa [argumentsInOrder] using this

theorem lookup_map_pair (names : List String) (f : String → Value) (n : String) :
    (names.map fun m => (m, f m)).lookup n = if n ∈ names then some (f n) else none := by
  induction names with
  | nil => rfl
  | cons m names ih =>
    by_cases h : n = m
    · simp [h]
    · simp [List.lookup_cons, beq_eq_false_iff_ne.2 h, ih, h]

/-- A name has the same value among positions and keywords as among the arguments in order. -/
theorem lookup_argumentsInOrder {names : List String} {positions : List Value}
    {keywords : List (String × Value)} (h : Supplies names positions keywords) (n : String) :
    (names.zip (argumentsInOrder names positions keywords)).lookup n =
      (names.zip positions ++ keywords).lookup n := by
  obtain ⟨hle, hperm⟩ := h
  rw [zip_argumentsInOrder hle, List.lookup_append, List.lookup_append, lookup_map_pair]
  congr 1
  cases hn : keywords.lookup n with
  | none =>
    have : n ∉ keywords.map Prod.fst := by
      rw [List.lookup_eq_none_iff] at hn
      intro hin
      obtain ⟨p, hp, rfl⟩ := List.mem_map.1 hin
      simpa using hn p hp
    rw [if_neg fun hin => this (hperm.mem_iff.2 hin)]
  | some v =>
    have := List.mem_map_of_mem (f := Prod.fst) (mem_of_lookup hn)
    rw [if_pos (hperm.mem_iff.1 this), Option.getD_some]

/-! ### Calls -/

/-- The frame of a call depends on what names it gives values to, not on their order. -/
theorem frameOf_congr {code : Routine} {values values' : List (String × Value)}
    (h : ∀ n, values.lookup n = values'.lookup n) : frameOf code values = frameOf code values' := by
  simp only [frameOf, h]

/-- With an argument for every parameter, a call is the one with all arguments by position. -/
theorem ends_invoke_supplied (m : Machine) {names : List String} (hnames : names.Nodup)
    {positions : List Value} {keywords : List (String × Value)}
    (h : Supplies names positions keywords) (body : Expr) (scope : Scope) (name : String)
    (s : State) :
    (invoke m (lambdaRoutine (names.map Parameter.plain) body) scope name [] positions
        keywords).ends s =
      (invoke m (lambdaRoutine (names.map Parameter.plain) body) scope name []
        (argumentsInOrder names positions keywords) []).ends s := by
  have hplain := ends_bindArguments_plain (length_argumentsInOrder h.1 keywords) name s
  rw [ends_invoke_frame m (ends_bindArguments_supplied hnames h name s),
    ends_invoke_frame m hplain, frameOf_congr (lookup_argumentsInOrder h)]

/-- Arguments that do not give every parameter one argument are refused before the body runs. -/
theorem refuses_invoke (m : Machine) {names : List String} (hnames : names.Nodup)
    {positions : List Value} {keywords : List (String × Value)}
    (h : ¬ Supplies names positions keywords) (body : Expr) (scope : Scope) (name : String) :
    (invoke m (lambdaRoutine (names.map Parameter.plain) body) scope name [] positions
      keywords).Refuses :=
  (refuses_bindArguments_plain hnames h name).bind _

theorem lookup_isSome_iff {keywords : List (String × Value)} {n : String} :
    (keywords.lookup n).isSome = true ↔ n ∈ keywords.map Prod.fst := by
  induction keywords with
  | nil => simp
  | cons entry rest ih =>
    obtain ⟨k, v⟩ := entry
    by_cases h : n = k
    · simp [h]
    · rw [List.lookup_cons, beq_eq_false_iff_ne.2 h, List.map_cons, List.mem_cons, or_iff_right h]
      exact ih

theorem nodup_of_compileResult {settings : Settings} {text : String} {source : Source}
    {f : List String × Expr} (h : compileResult settings text = .ok (source, f)) :
    f.1 = source.parameters ∧ source.parameters.Nodup := by
  obtain ⟨e, -, rfl, hfunction⟩ := (sourceResult_eq_ok (sourceResult_of_compileResult h).2).2
  simp only [isFunction, Usage.ofFunction, Bool.and_eq_true, decide_eq_true_eq] at hfunction
  exact ⟨rfl, hfunction.1.1.1⟩

/-- A compiled text takes its arguments by position and by name alike, but for the name under which
it takes itself. If positions and keywords together give every parameter one argument and no keyword
is that name, a call ends exactly as the one with all arguments by position, in the order of the
parameters. A keyword with that name is refused, also if it is a parameter; so are arguments that do
not give every parameter exactly one. A refused call evaluates nothing: it leaves the state as it
is. -/
theorem compiled_takes_keywords {settings : Settings} {text : String} {given : Value}
    (hgiven : IsNamespace given) {s s₁ : State} {c : Value}
    (hc : (compileNew machine settings text given).ends s = some (.ok c, s₁)) :
    ∃ serial source function, c = .compiled serial source function ∧
      ∀ (t : State) (positions : List Value) (keywords : List (String × Value)),
      ("self" ∈ keywords.map Prod.fst →
        (machine.call c positions keywords).ends t = some (.error selfError, t)) ∧
      ("self" ∉ keywords.map Prod.fst → Supplies source.parameters positions keywords →
        (machine.call c positions keywords).ends t =
          (machine.call c (argumentsInOrder source.parameters positions keywords) []).ends t) ∧
      (¬ Supplies source.parameters positions keywords → ∃ message,
        (machine.call c positions keywords).ends t =
          some (.error (.error "TypeError" [.text message] none), t)) := by
  obtain ⟨source, f, log, compilers, hresult, rfl, -⟩ := compiled_of_ends_compileNew hgiven hc
  obtain ⟨hparameters, hnodup⟩ := nodup_of_compileResult hresult
  refine ⟨_, source, _, rfl, fun t positions keywords => ?_⟩
  have hcall : ∀ positions keywords,
      (machine.call (.compiled (s.serial + 1) source (compiledFunction s f)) positions
        keywords).ends t = if (keywords.lookup "self").isSome then some (.error selfError, t)
        else (invoke (machineAt (topLevel - 2))
          (lambdaRoutine (source.parameters.map Parameter.plain) f.2) ⟨[], s.cells.size, ""⟩
          "<lambda>" [] positions keywords).ends t := by
    rw [compiledFunction, hparameters]
    exact fun _ _ => ends_call_compiled ..
  rw [hcall, hcall, ← lookup_isSome_iff]
  refine ⟨fun hself => if_pos hself, fun hself hsupplies => ?_, fun hsupplies => ?_⟩
  · rw [if_neg hself]
    exact ends_invoke_supplied _ hnodup hsupplies _ _ _ _
  · by_cases hself : (keywords.lookup "self").isSome
    · exact ⟨_, if_pos hself⟩
    · obtain ⟨message, hrefuses⟩ :=
        refuses_invoke (machineAt (topLevel - 2)) hnodup hsupplies f.2 ⟨[], s.cells.size, ""⟩
          "<lambda>"
      exact ⟨message, (if_neg hself).trans (hrefuses t)⟩

/-- A text with two parameters, one given by position and one by name. -/
theorem compiled_takes_keywords_mixed :
    ∃ c s, (compileNew machine {} shadowingText .none).ends {} = some (.ok c, s) ∧
      (machine.call c [.int 7] [("y", .int 2)]).ends s =
        (machine.call c [.int 7, .int 2] []).ends s := by
  obtain ⟨log, compilers, hc⟩ := ends_compileNew machine
    (show Settings.cacheSize {} < maxCapacity by decide) shadowingText
    (show IsNamespace .none from trivial) {}
  rw [compileResult_shadowing] at hc
  obtain ⟨_, source, _, hcompiled, hcalls⟩ := compiled_takes_keywords
    (show IsNamespace .none from trivial) hc
  cases hcompiled
  exact ⟨_, _, hc, (hcalls _ [.int 7] [("y", .int 2)]).2.1 (by decide) ⟨by decide, .refl _⟩⟩

/-- The text of a function whose parameter has the name under which it takes itself. -/
def selfText : String := String.ofList ['s', 'e', 'l', 'f', '-', '>', 's', 'e', 'l', 'f']

theorem compileResult_self : compileResult {} selfText =
    .ok (.last selfText .arrow ["self"] "self", ["self"], .name "self") := by
  have hread : Source.read (Settings.operandName {}).toList (Settings.receiver {}).toList selfText =
      .ok (.last selfText .arrow ["self"] "self") := rfl
  have hresult : sourceResult (.last selfText .arrow ["self"] "self") =
      .ok (["self"], .name "self") := rfl
  rw [compileResult_of_read hread, hresult]
  rfl

/-- A function that gives its only argument back. -/
theorem ends_call_identity (serial : Nat) (source : Source) (serial' globals : Nat) (n : String)
    (v : Value) {s : State} (hdepth : s.depth < Run.maxDepth) (hn : n ≠ lockedName) :
    ∃ t, (machine.call (.compiled serial source (.function serial'
      (lambdaRoutine ([n].map Parameter.plain) (.name n)) ⟨[], globals, ""⟩ "<lambda>" [])) [v]
        []).ends s = some (.ok v, t) := by
  obtain ⟨k, hk⟩ : ∃ k, topLevel - 2 = k + 1 := ⟨topLevel - 3, by decide⟩
  have hlookup := @ends_lookupName_frameOf
    { s with
      frames := s.frames.push (frameOf (lambdaRoutine ([n].map Parameter.plain) (.name n)) [(n, v)])
      depth := s.depth + 1 }
    s.frames.size (lambdaRoutine ([n].map Parameter.plain) (.name n)) [(n, v)]
    Array.getElem?_push_size rfl globals "<lambda>.<locals>." n
  rw [if_pos ((mem_locals_lambdaRoutine rfl n).2 (List.mem_singleton_self n))] at hlookup
  simp only [List.lookup_cons, beq_self_eq_true] at hlookup
  rw [← nameValue_of_ne _ hn] at hlookup
  rw [ends_call_compiled, List.lookup_nil, Option.isSome_none, if_neg (by simp),
    ends_invoke_plain _ rfl _ rfl, Run.ends_deeper (by exact hdepth), hk]
  exact ⟨_, congrArg (Option.map _) hlookup⟩

/-- The one parameter of a function can be given by position and not by name. -/
theorem self_by_position_only :
    ∃ c s t, (compileNew machine {} selfText .none).ends {} = some (.ok c, s) ∧
      Supplies ["self"] [] [("self", .int 1)] ∧
      argumentsInOrder ["self"] [] [("self", .int 1)] = [.int 1] ∧
      (machine.call c [.int 1] []).ends s = some (.ok (.int 1), t) ∧
      (machine.call c [] [("self", .int 1)]).ends s = some (.error selfError, s) := by
  obtain ⟨log, compilers, hc⟩ := ends_compileNew machine
    (show Settings.cacheSize {} < maxCapacity by decide) selfText
    (show IsNamespace .none from trivial) {}
  rw [compileResult_self] at hc
  obtain ⟨t, hposition⟩ := @ends_call_identity 1 (.last selfText .arrow ["self"] "self") 0 0 "self"
    (.int 1) { compiledState {} .none with log, compilers } (show 0 < Run.maxDepth by decide)
    (by decide)
  exact ⟨_, _, t, hc, ⟨by decide, .refl _⟩, rfl, hposition, ends_call_compiled ..⟩

end LambdaText
