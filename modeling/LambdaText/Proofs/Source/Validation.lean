import LambdaText.Library.Operation
import LambdaText.Proofs.Eval.Ends

/-!
# Nested fields of a source

Fields that nest as stages do make a source if each stage has either a body or an inner stage. The
stages are checked from the inside out, so that the issue of a stage hides those of the stages
around it.
-/

namespace LambdaText

open LambdaText.Operation

namespace Source

/-- The fields of one stage, without its inner stage. -/
structure Level where
  /-- The text that was read. -/
  text : String
  /-- The grammar it was recognized as. -/
  form : Form
  /-- The parameters of the stage. -/
  parameters : List String
  /-- The body of the stage, if it has one. -/
  body? : Option String
  deriving DecidableEq, Repr

/-- The stages of a source, each with its fields. -/
def levels : Source → List Level
  | last text form parameters body => [⟨text, form, parameters, some body⟩]
  | stage text form parameters inner => ⟨text, form, parameters, none⟩ :: inner.levels

theorem length_levels (s : Source) : s.levels.length = s.depth := by
  induction s with
  | last text form parameters body => rfl
  | stage text form parameters inner ih => rw [levels, List.length_cons, ih, depth, Nat.add_comm]

theorem getLast?_levels (s : Source) :
    (s.levels.getLast?.bind Level.body?) = some s.finalBody := by
  induction s with
  | last text form parameters body => rfl
  | stage text form parameters inner ih =>
    have hne : inner.levels ≠ [] := by cases inner <;> simp [levels]
    rw [levels, List.getLast?_cons_of_ne_nil hne, ih, finalBody]

/-- Whether a dictionary gives these fields of a stage; what else it holds does not matter. -/
structure Level.GivenBy (l : Level) (entries : List (Datum × Datum)) : Prop where
  text : Datum.field? entries "text" = some (.text l.text)
  form : Datum.field? entries "form" = some (.text l.form.name)
  parameters : Datum.field? entries "params" = some (.list (l.parameters.map .text)) ∨
    Datum.field? entries "params" = none ∧ l.parameters = []
  body : match l.body? with
    | some body => Datum.field? entries "body" = some (.text body)
    | none => Datum.field? entries "body" = none ∨ Datum.field? entries "body" = some .none

/-- Whether nested dictionaries give the fields of stages, each one inside of the one before. -/
inductive Nested : Datum → List Level → Prop
  | last {entries : List (Datum × Datum)} {l : Level} (hown : l.GivenBy entries)
    (hinner : Datum.field? entries "inner" = none ∨ Datum.field? entries "inner" = some .none) :
    Nested (.dict entries) [l]
  | stage {entries : List (Datum × Datum)} {l : Level} {inner : Datum} {rest : List Level}
    (hown : l.GivenBy entries) (hinner : Datum.field? entries "inner" = some inner)
    (hrest : Nested inner rest) : Nested (.dict entries) (l :: rest)

/-- Whether a stage has both a body and an inner stage, or neither. -/
def Breaks (levels : List Level) (k : Nat) : Prop :=
  ∃ l, levels[k]? = some l ∧ l.body?.isSome = decide (k + 1 < levels.length)

/-- Whether a stage is the innermost one that has both a body and an inner stage, or neither. -/
def BreaksLast (levels : List Level) (k : Nat) : Prop :=
  Breaks levels k ∧ ∀ j, k < j → ¬ Breaks levels j

/-- The issue of a stage that has both a body and an inner stage, or neither. -/
def stageIssue (k : Nat) : Issue :=
  ⟨List.replicate k "inner", .rule "LambdaSource requires exactly one of 'body' or 'inner'."⟩

/-! ### Reading one dictionary -/

theorem field?_cons (key d : Datum) (rest : List (Datum × Datum)) (name : String) :
    Datum.field? ((key, d) :: rest) name =
      (Datum.field? rest name).or (Datum.field? [(key, d)] name) := by
  simp only [Datum.field?, List.reverse_cons, List.find?_append, List.reverse_nil, List.nil_append]
  cases List.find? _ rest.reverse <;> rfl

theorem innerOfEntry_eq (key d : Datum) :
    innerOfEntry (key, d) = optional ofDatum (Datum.field? [(key, d)] "inner") := by
  cases key with
  | text name =>
    have hentry : innerOfEntry (.text name, d) =
        if name = "inner" then optional ofDatum (some d) else .ok none := by
      cases d <;> rfl
    by_cases hname : name = "inner"
    · rw [hentry, if_pos hname]
      simp [Datum.field?, hname]
    · rw [hentry, if_neg hname]
      simp [Datum.field?, hname, optional]
  | _ => rfl

/-- The inner stage is read from the field of its name. -/
theorem innerOf_eq (entries : List (Datum × Datum)) :
    innerOf entries = optional ofDatum (Datum.field? entries "inner") := by
  induction entries with
  | nil =>
    rw [innerOf]
    rfl
  | cons entry rest ih =>
    obtain ⟨key, d⟩ := entry
    rw [innerOf, field?_cons]
    cases hrest : Datum.field? rest "inner" with
    | some inner => rw [Option.isSome_some, if_pos rfl, ih, hrest, Option.some_or]
    | none =>
      rw [Option.isSome_none, if_neg Bool.false_ne_true, Option.none_or, innerOfEntry_eq]

variable {entries : List (Datum × Datum)} {l : Level}

theorem checkItems_texts (n : Nat) (texts : List String) :
    checkItems Datum.asText n (texts.map .text) = .ok texts := by
  induction texts generalizing n with
  | nil => rfl
  | cons text rest ih =>
    rw [List.map_cons, checkItems, ih]
    rfl

theorem formOf_name (form : Form) : formOf (.text form.name) = .ok form := by
  cases form <;> rfl

/-- Where the fields of a stage are in order, it is made of its parts, or has the issues of its inner
stage. -/
theorem Level.GivenBy.ofChecked_eq (h : l.GivenBy entries) (inner : Checked (Option Source)) :
    ofChecked (Datum.field? entries) inner = match inner with
      | .ok inner => ofParts l.text l.form l.parameters l.body? inner
      | .error issues => .error (issues.map (Issue.under "inner")) := by
  have htext : (required Datum.asText (Datum.field? entries "text")).at "text" = .ok l.text := by
    rw [h.text]
    rfl
  have hform : (required formOf (Datum.field? entries "form")).at "form" = .ok l.form := by
    rw [h.form, required, formOf_name]
    rfl
  have hbody : (optional Datum.asText (Datum.field? entries "body")).at "body" = .ok l.body? := by
    have hbody := h.body
    cases hl : l.body? with
    | none =>
      rw [hl] at hbody
      obtain hbody | hbody := hbody <;> rw [hbody] <;> rfl
    | some body =>
      rw [hl] at hbody
      rw [hbody]
      rfl
  have htexts : (Datum.list (l.parameters.map .text)).asTexts = .ok l.parameters :=
    checkItems_texts 0 l.parameters
  unfold ofChecked
  rw [htext, hform, hbody]
  obtain hgiven | ⟨habsent, hempty⟩ := h.parameters
  · simp only [hgiven, htexts]
    cases inner <;> rfl
  · simp only [habsent, hempty]
    cases inner <;> rfl

theorem Level.GivenBy.ofDatum_eq (h : l.GivenBy entries) :
    ofDatum (.dict entries) = match optional ofDatum (Datum.field? entries "inner") with
      | .ok inner => ofParts l.text l.form l.parameters l.body? inner
      | .error issues => .error (issues.map (Issue.under "inner")) := by
  rw [ofDatum, innerOf_eq, h.ofChecked_eq]

/-! ### Stages that break the rule -/

theorem not_breaks_nil (k : Nat) : ¬ Breaks [] k := by
  rintro ⟨l, hl, -⟩
  cases hl

theorem breaks_cons_zero {rest : List Level} :
    Breaks (l :: rest) 0 ↔ l.body?.isSome = !rest.isEmpty := by
  cases rest <;> simp [Breaks]

theorem breaks_cons_succ {rest : List Level} {k : Nat} :
    Breaks (l :: rest) (k + 1) ↔ Breaks rest k := by
  simp [Breaks]

theorem breaksLast_cons_zero {rest : List Level} (h : Breaks (l :: rest) 0)
    (hrest : ∀ k, ¬ Breaks rest k) : BreaksLast (l :: rest) 0 := by
  refine ⟨h, fun j hj => ?_⟩
  obtain ⟨k, rfl⟩ := Nat.exists_eq_succ_of_ne_zero (Nat.ne_of_gt hj)
  exact fun hk => hrest k (breaks_cons_succ.1 hk)

theorem BreaksLast.cons {rest : List Level} {k : Nat} (h : BreaksLast rest k) :
    BreaksLast (l :: rest) (k + 1) := by
  refine ⟨breaks_cons_succ.2 h.1, fun j hj => ?_⟩
  obtain ⟨i, rfl⟩ := Nat.exists_eq_succ_of_ne_zero (Nat.ne_of_gt (Nat.zero_lt_of_lt hj))
  exact fun hi => h.2 i (Nat.lt_of_succ_lt_succ hj) (breaks_cons_succ.1 hi)

theorem not_breaks_cons {rest : List Level} (h : ¬ Breaks (l :: rest) 0)
    (hrest : ∀ k, ¬ Breaks rest k) : ∀ k, ¬ Breaks (l :: rest) k
  | 0 => h
  | k + 1 => fun hk => hrest k (breaks_cons_succ.1 hk)

/-! ### All stages -/

/-- How the check of nested fields comes out: as a source of these stages where none of them breaks
the rule, and else with the issue of the innermost one that does. -/
inductive Outcome (levels : List Level) : Checked Source → Prop
  | accepted {s : Source} (hlevels : s.levels = levels) (h : ∀ k, ¬ Breaks levels k) :
    Outcome levels (.ok s)
  | refused {k : Nat} (h : BreaksLast levels k) : Outcome levels (.error [stageIssue k])

theorem outcome_last (l : Level) :
    Outcome [l] (ofParts l.text l.form l.parameters l.body? none) := by
  obtain ⟨text, form, parameters, body?⟩ := l
  cases body? with
  | none => exact .refused (k := 0) (breaksLast_cons_zero (breaks_cons_zero.2 rfl) not_breaks_nil)
  | some body =>
    have hzero : ¬ Breaks [⟨text, form, parameters, some body⟩] 0 := by simp [breaks_cons_zero]
    exact .accepted rfl (not_breaks_cons hzero not_breaks_nil)

/-- A stage around a source is in order if it has no body. -/
theorem outcome_stage (l : Level) {inner : Source} (hinner : ∀ k, ¬ Breaks inner.levels k) :
    Outcome (l :: inner.levels) (ofParts l.text l.form l.parameters l.body? (some inner)) := by
  obtain ⟨text, form, parameters, body?⟩ := l
  have hne : inner.levels.isEmpty = false := by cases inner <;> rfl
  cases body? with
  | none =>
    have hzero : ¬ Breaks (⟨text, form, parameters, none⟩ :: inner.levels) 0 := by
      simp [breaks_cons_zero, hne]
    exact .accepted rfl (not_breaks_cons hzero hinner)
  | some body =>
    have hzero : Breaks (⟨text, form, parameters, some body⟩ :: inner.levels) 0 := by
      simp [breaks_cons_zero, hne]
    exact .refused (k := 0) (breaksLast_cons_zero hzero hinner)

theorem Nested.outcome {d : Datum} {levels : List Level} (h : Nested d levels) :
    Outcome levels (ofDatum d) := by
  induction h with
  | @last entries l hown hinner =>
    have hread : optional ofDatum (Datum.field? entries "inner") = .ok none := by
      obtain hinner | hinner := hinner <;> rw [hinner] <;> rfl
    rw [hown.ofDatum_eq, hread]
    exact outcome_last l
  | @stage entries l inner rest hown hinner hrest ih =>
    have hread : optional ofDatum (Datum.field? entries "inner") = (ofDatum inner).map some := by
      rw [hinner]
      cases hrest <;> rfl
    rw [hown.ofDatum_eq, hread]
    generalize ofDatum inner = checked at ih
    cases ih with
    | @accepted s hlevels hnone =>
      subst hlevels
      exact outcome_stage l hnone
    | refused hlast => exact .refused hlast.cons

theorem nested_datum (s : Source) : Nested s.datum s.levels := by
  induction s with
  | last text form parameters body =>
    exact .last ⟨rfl, rfl, .inl rfl, rfl⟩ (.inl rfl)
  | stage text form parameters inner ih =>
    exact .stage ⟨rfl, rfl, .inl rfl, .inl rfl⟩ rfl ih

end Source

open Source

/-- A source is made with a serial number; the issues of its fields are an error. -/
def sourceEnd (c : Checked Source) (t : State) : Option (Except Value Value × State) :=
  match c with
  | .ok s => some (.ok (.source t.serial s), { t with serial := t.serial + 1 })
  | .error issues => some (.error (.error "ValidationError" [] (some (.issues issues))), t)

theorem ends_newSource (m : Machine) (name : String) {keywords : Keywords}
    {data : List (Datum × Datum)} {t : State}
    (hdata : (keywordData keywords).ends t = some (.ok data, t)) :
    (Operation.newSource.invokeWith m name [] keywords).ends t =
      sourceEnd (ofDatum (.dict data)) t := by
  change (sourceOf keywords).ends t = _
  rw [sourceOf, Run.ends_bind_of_ok hdata]
  cases ofDatum (.dict data) <;> rfl

/-- Nested fields, however deep, make a source if and only if each stage has either a body or an
inner stage. Then its stages are the given ones, its depth is their number, and its body is that of
the last one. Otherwise there is one issue, at the innermost stage that has both or neither. -/
theorem newSource_nested {d : Datum} {levels : List Level} (h : Nested d levels) :
    ((∃ s, ofDatum d = .ok s) ↔ ∀ k, ¬ Breaks levels k) ∧
      (∀ s, ofDatum d = .ok s → s.levels = levels ∧
        ∃ body, (levels.getLast?.bind Level.body?) = some body ∧ ∀ serial t,
          (attributeOf (.source serial s) "depth").ends t = some (.ok (.int levels.length), t) ∧
          ∀ m, (callMethod m (.source serial s) "final_body" [] []).ends t =
            some (.ok (.text body), t)) ∧
      ((∃ k, Breaks levels k) → ∃ k, BreaksLast levels k ∧ ofDatum d = .error [stageIssue k]) ∧
      ∀ m name keywords data t, d = .dict data →
        (keywordData keywords).ends t = some (.ok data, t) →
        (Operation.newSource.invokeWith m name [] keywords).ends t = sourceEnd (ofDatum d) t := by
  have hmade : ∀ m name keywords data t, d = .dict data →
      (keywordData keywords).ends t = some (.ok data, t) →
      (Operation.newSource.invokeWith m name [] keywords).ends t = sourceEnd (ofDatum d) t := by
    rintro m name keywords data t rfl hdata
    exact ends_newSource m name hdata
  have hout := h.outcome
  generalize ofDatum d = checked at hout hmade ⊢
  cases hout with
  | @accepted s hlevels hnone =>
    refine ⟨⟨fun _ => hnone, fun _ => ⟨s, rfl⟩⟩, fun s' hs' => ?_,
      fun ⟨k, hk⟩ => absurd hk (hnone k), hmade⟩
    cases hs'
    subst hlevels
    refine ⟨rfl, s.finalBody, getLast?_levels s, fun serial t => ⟨?_, fun m => rfl⟩⟩
    rw [length_levels]
    rfl
  | @refused k hlast =>
    refine ⟨⟨fun ⟨s, hs⟩ => ?_, fun hnone => absurd hlast.1 (hnone k)⟩, fun s hs => ?_,
      fun _ => ⟨k, hlast, rfl⟩, hmade⟩
    · cases hs
    · cases hs

/-- A stage with both a body and an inner stage, around a source that was made before. -/
theorem newSource_nested_both :
    ∃ s : Source, s.levels = [⟨"y -> y", .arrow, ["y"], some "y"⟩] ∧
      (Operation.newSource.invokeWith machine "LambdaSource" [] [("text", .text "x"),
          ("form", .text "arrow"), ("body", .text "x"), ("inner", .source 0 s)]).ends {} =
        some (.error (.error "ValidationError" [] (some (.issues [stageIssue 0]))), {}) := by
  let s : Source := .last "y -> y" .arrow ["y"] "y"
  let data : List (Datum × Datum) := [(.text "text", .text "x"), (.text "form", .text "arrow"),
    (.text "body", .text "x"), (.text "inner", s.datum)]
  have hnested : Nested (.dict data) (⟨"x", .arrow, [], some "x"⟩ :: s.levels) :=
    .stage ⟨rfl, rfl, .inr ⟨rfl, rfl⟩, rfl⟩ rfl (nested_datum s)
  obtain ⟨-, -, hrefused, hmade⟩ := newSource_nested hnested
  have hbreaks : Breaks (⟨"x", .arrow, [], some "x"⟩ :: s.levels) 0 := breaks_cons_zero.2 rfl
  obtain ⟨k, hlast, hissue⟩ := hrefused ⟨0, hbreaks⟩
  have hk : k = 0 := by
    cases k with
    | zero => rfl
    | succ k =>
      have hinner : ∀ k, ¬ Breaks s.levels k :=
        not_breaks_cons (by simp [breaks_cons_zero]) not_breaks_nil
      exact absurd (breaks_cons_succ.1 hlast.1) (hinner k)
  refine ⟨s, rfl, ?_⟩
  rw [hmade _ _ _ data {} rfl rfl, hissue, hk]
  rfl

end LambdaText
