import LambdaText.Proofs.Eval.Ends
import LambdaText.Proofs.Source.Occurrences

/-!
# Calls of plain functions

A function whose parameters are plain takes as many positions as it has parameters, and runs its
body in a frame that gives every parameter its argument. A name has the value that the innermost
frame with this name gives to it; the other names are global.
-/

namespace LambdaText

open LambdaText.Code

/-! ### Arguments -/

theorem positionalParameters_plain (names : List String) :
    (positionalParameters (names.map Parameter.plain)).map Parameter.name = names := by
  have hall : positionalParameters (names.map Parameter.plain) = names.map Parameter.plain := by
    rw [positionalParameters, ofKinds, List.filter_eq_self]
    simp [Parameter.plain, Parameter.kind]
  rw [hall, List.map_map]
  exact List.map_id names

theorem ofKinds_plain_eq_nil (names : List String) {kind : ParameterKind}
    (h : kind ≠ .standard) : ofKinds (names.map Parameter.plain) [kind] = [] := by
  rw [ofKinds, List.filter_eq_nil_iff]
  simp [Parameter.plain, Parameter.kind, h.symm]

/-- Every parameter takes the position with its own number. -/
theorem ends_bindArguments_plain {names : List String} {positions : List Value}
    (h : names.length = positions.length) (name : String) (s : State) :
    (bindArguments name (names.map Parameter.plain) [] positions []).ends s =
      some (.ok (names.zip positions), s) := by
  have hkinds := @ofKinds_plain_eq_nil names
  have hbound : ∀ n ∈ names, (names.zip positions).any (fun b => b.1 == n) = true := by
    intro n hn
    rw [List.any_eq_true]
    obtain ⟨i, hi, rfl⟩ := List.mem_iff_getElem.1 hn
    exact ⟨(names[i], positions[i]), List.mem_iff_getElem.2 ⟨i, by simp [← h, hi], by simp⟩,
      by simp⟩
  have hmissing : (names.filter fun n => !((names.zip positions).any fun b => b.1 == n)) = [] := by
    rw [List.filter_eq_nil_iff]
    intro n hn
    simp [hbound n hn]
  have hvariadic : nameOfKind? (names.map Parameter.plain) .variadic = none := by
    rw [nameOfKind?, hkinds (by decide), List.head?_nil, Option.map_none]
  have hspread : nameOfKind? (names.map Parameter.plain) .keywords = none := by
    rw [nameOfKind?, hkinds (by decide), List.head?_nil, Option.map_none]
  simp [bindArguments, positionalParameters_plain, bindKeywords, hkinds, hvariadic, hspread, h,
    hmissing]

/-- Keywords are shared out in the same way in every state. -/
theorem constant_bindKeywords (name : String) (parameters : List Parameter)
    (bound others keywords : List (String × Value)) :
    (bindKeywords name parameters bound others keywords).Constant := by
  induction keywords generalizing bound others with
  | nil => exact Run.constant_pure _
  | cons entry rest ih =>
    rw [bindKeywords]
    exact .ite (.ite (Run.constant_throw _) (ih _ _))
      (.ite (ih _ _) (.ite (Run.constant_throw _) (Run.constant_throw _)))

theorem constant_bindArguments_plain (name : String) (names : List String)
    (positions : List Value) (keywords : List (String × Value)) :
    (bindArguments name (names.map Parameter.plain) [] positions keywords).Constant := by
  have hspread : nameOfKind? (names.map Parameter.plain) .keywords = none := by
    rw [nameOfKind?, ofKinds_plain_eq_nil names (by decide), List.head?_nil, Option.map_none]
  rw [bindArguments, hspread]
  -- Three tests in a row, each of which may refuse the arguments.
  exact .bind (constant_bindKeywords _ _ _ _ _) fun _ => .ite (Run.constant_throw _)
    (.ite (Run.constant_throw _) (.ite (Run.constant_throw _) (Run.constant_pure _)))

/-! ### Frames -/

/-- Whether a frame gives exactly the names of a layer their values there. -/
structure Frame.Holds (f : Frame) (layer : List (String × Value)) : Prop where
  globals : f.globals = []
  slot : ∀ n v, layer.lookup n = some v →
    ∃ i, f.slot? n = some i ∧ (f.slots[i]?).bind Prod.snd = some v
  noSlot : ∀ n, layer.lookup n = none → f.slot? n = none

/-- Whether the frame at an address gives exactly the names of a layer their values there. -/
def Lists (frames : Array Frame) (a : Nat) (layer : List (String × Value)) : Prop :=
  ∃ f, frames[a]? = some f ∧ f.Holds layer

theorem lookup_zip_eq_none {names : List String} {positions : List Value}
    (h : names.length = positions.length) {n : String} :
    (names.zip positions).lookup n = none ↔ n ∉ names := by
  rw [List.lookup_eq_none_iff]
  constructor
  · intro hnone hn
    obtain ⟨i, hi, rfl⟩ := List.mem_iff_getElem.1 hn
    have := hnone (names[i], positions[i]) (List.mem_iff_getElem.2 ⟨i, by simp [← h, hi], by simp⟩)
    simp at this
  · intro hn p hp
    have := (List.of_mem_zip hp).1
    simp only [bne_iff_ne, ne_eq]
    rintro rfl
    exact hn this

theorem slot?_frameOf (code : Routine) (values : List (String × Value)) (n : String) :
    (frameOf code values).slot? n = code.locals.findIdx? (· == n) := by
  rw [Frame.slot?, frameOf, List.findIdx?_toArray, List.findIdx?_map]
  rfl

theorem slot?_frameOf_of_not_mem {code : Routine} {n : String} (hn : n ∉ code.locals)
    (values : List (String × Value)) : (frameOf code values).slot? n = none := by
  rw [slot?_frameOf, List.findIdx?_eq_none_iff]
  rintro m hm
  rw [beq_eq_false_iff_ne]
  rintro rfl
  exact hn hm

theorem slot?_frameOf_of_mem {code : Routine} {n : String} (hn : n ∈ code.locals)
    (values : List (String × Value)) : ∃ i, (frameOf code values).slot? n = some i ∧
      ((frameOf code values).slots[i]?).bind Prod.snd = values.lookup n := by
  obtain ⟨i, hi⟩ : ∃ i, code.locals.findIdx? (· == n) = some i := by
    rw [← Option.isSome_iff_exists, List.findIdx?_isSome, List.any_eq_true]
    exact ⟨n, hn, by simp⟩
  refine ⟨i, by rw [slot?_frameOf, hi], ?_⟩
  obtain ⟨hlt, hname, -⟩ := List.findIdx?_eq_some_iff_getElem.1 hi
  rw [beq_iff_eq] at hname
  simp [frameOf, hlt, hname]

theorem holds_frameOf {code : Routine} {names : List String} {positions : List Value}
    (h : names.length = positions.length) (hlocals : ∀ n, n ∈ code.locals ↔ n ∈ names)
    (hglobals : code.globals = []) :
    (frameOf code (names.zip positions)).Holds (names.zip positions) where
  globals := hglobals
  slot n v hv := by
    have hn : n ∈ code.locals := by
      rw [hlocals]
      by_contra hn
      rw [(lookup_zip_eq_none h).2 hn] at hv
      cases hv
    obtain ⟨i, hi, hvalue⟩ := slot?_frameOf_of_mem hn (names.zip positions)
    exact ⟨i, hi, hvalue.trans hv⟩
  noSlot n hn :=
    slot?_frameOf_of_not_mem ((hlocals n).not.2 ((lookup_zip_eq_none h).1 hn)) _

/-- The innermost layer that has a name gives it its value. -/
theorem ends_lookupIn {s : State} {addresses : List Nat} {layers : List (List (String × Value))}
    (h : List.Forall₂ (Lists s.frames) addresses layers)
    (globals : Nat) (n : String) (inner : Bool) :
    (lookupIn globals n inner addresses).ends s = match layers.flatten.lookup n with
      | some v => some (.ok v, s)
      | none => (lookupGlobal globals n).ends s := by
  induction h generalizing inner with
  | nil => rfl
  | @cons a layer addresses layers hf _ ih =>
    obtain ⟨f, hf, hlayer⟩ := hf
    rw [lookupIn, Run.ends_bind_of_ok (Run.ends_frame a s), hf, Option.getD_some, hlayer.globals,
      List.flatten_cons, List.lookup_append]
    simp only [List.contains_nil, Bool.false_eq_true, if_false]
    cases hn : layer.lookup n with
    | none =>
      rw [hlayer.noSlot n hn]
      exact ih false
    | some v =>
      obtain ⟨i, hi, hv⟩ := hlayer.slot n v hn
      rw [hi]
      simp only [hv]
      rfl

theorem nameValue_of_ne (scope : Scope) {n : String} (h : n ≠ lockedName) :
    nameValue scope n = lookupName scope n :=
  if_neg (by simpa using h)

/-- A name in the frame of a call: the names of the routine are its own, all others are global. -/
theorem ends_lookupName_frameOf {s : State} {a : Nat} {code : Routine}
    {values : List (String × Value)} (hframe : s.frames[a]? = some (frameOf code values))
    (hglobals : code.globals = []) (globals : Nat) (path n : String) :
    (lookupName ⟨[a], globals, path⟩ n).ends s =
      if n ∈ code.locals then
        match values.lookup n with
        | some v => some (.ok v, s)
        | none => (unboundLocal (α := Value) n).ends s
      else (lookupGlobal globals n).ends s := by
  have hlist : (frameOf code values).globals = [] := hglobals
  rw [lookupName, lookupIn, Run.ends_bind_of_ok (Run.ends_frame a s), hframe, Option.getD_some,
    hlist]
  simp only [List.contains_nil, Bool.false_eq_true, if_false]
  by_cases hn : n ∈ code.locals
  · obtain ⟨i, hi, hvalue⟩ := slot?_frameOf_of_mem hn values
    rw [if_pos hn, hi]
    simp only [hvalue]
    cases values.lookup n <;> rfl
  · rw [if_neg hn, slot?_frameOf_of_not_mem hn]
    rfl

/-! ### Calls -/

/-- What a call goes on with when its frame has been entered: the value of an expression, or a
generator if the expression yields. -/
def enterBody (m : Machine) (scope : Scope) (code : Routine) (e : Expr) : Run Value :=
  if e.usage.yields then Run.newIterator "generator" (.routine scope code)
  else Run.deeper (m.expr scope e)

theorem ends_invoke_frame (m : Machine) {code : Routine} {name : String}
    {defaults keywords values : List (String × Value)} {positions : List Value} {s : State}
    (h : (bindArguments name code.parameters defaults positions keywords).ends s =
      some (.ok values, s))
    (scope : Scope) :
    (invoke m code scope name defaults positions keywords).ends s =
      (if code.yields then
          Run.newIterator "generator" (.routine
            ⟨s.frames.size :: scope.frames, scope.globals, name ++ ".<locals>."⟩ code)
        else Run.deeper (runBody m
          ⟨s.frames.size :: scope.frames, scope.globals, name ++ ".<locals>."⟩ code)).ends
        { s with frames := s.frames.push (frameOf code values) } := by
  rw [invoke, Run.ends_bind_of_ok h, Run.ends_bind_of_ok (Run.ends_enterFrame _ s)]

/-- Calling a function with plain parameters runs its body in a frame that is new. -/
theorem ends_invoke_plain (m : Machine) {names : List String} {positions : List Value}
    (h : names.length = positions.length) (body : Expr) (hyields : body.usage.yields = false)
    (scope : Scope) (name : String) (s : State) :
    (invoke m (lambdaRoutine (names.map Parameter.plain) body) scope name [] positions []).ends s =
      (Run.deeper (m.expr ⟨s.frames.size :: scope.frames, scope.globals, name ++ ".<locals>."⟩
        body)).ends
        { s with
          frames := s.frames.push
            (frameOf (lambdaRoutine (names.map Parameter.plain) body) (names.zip positions)) } := by
  have hcode : (lambdaRoutine (names.map Parameter.plain) body).yields = false := hyields
  rw [ends_invoke_frame m (ends_bindArguments_plain h name s) scope, hcode]
  rfl

end LambdaText
