import LambdaText.Proofs.Code.Returned
import LambdaText.Proofs.Eval.Stages

/-!
# Expressions in chains and in blocks

An expression behind an arrow and the same expression given by a block are compiled from texts that
are read by different grammars. Calling what is compiled from either text evaluates one expression,
in scopes where all names but those of the block's own function mean the same.
-/

namespace LambdaText

open LambdaText.Code LambdaText.Function LambdaText.Source LambdaText.Text

/-! ### Global names -/

/-- What a name means in the body of a function without parameters that is compiled with a
namespace: a name that assignments in the body bind has no value yet, and all others are global. -/
def bodyName (s : State) (given : Value) (bound : List String) (n : String) : Run Value :=
  if n ∈ bound then unboundLocal n
  else match (namespaceValue? s given n).or (entryValue? builtinEntries.toList n) with
    | some v => pure v
    | none => lookupBuiltin (globalEntries s given) n

/-- A global name where the global names are those of a namespace, but for one other name. -/
theorem ends_lookupGlobal_namespace {s t : State} {given : Value} {globals : Nat}
    {entries : Array (Value × Value)} {other : String}
    (hentries : ∀ n, n ≠ other →
      entryValue? entries.toList n = entryValue? (globalEntries s given).toList n)
    (hother : other ≠ "__builtins__") (hcell : t.cells[globals]? = some (.dict entries))
    {bound : List String} {n : String} (hn : n ≠ other) (hbound : n ∉ bound) :
    (lookupGlobal globals n).ends t = (bodyName s given bound n).ends t := by
  rw [ends_lookupGlobal hcell, hentries n hn, entryValue?_globalEntries, bodyName,
    if_neg hbound, lookupBuiltin_congr (hentries _ hother.symm)]
  cases (namespaceValue? s given n).or (entryValue? builtinEntries.toList n) <;> rfl

/-! ### Calls without arguments -/

/-- The function that a block becomes if it gives an expression. -/
def givingRoutine (e : Expr) : Routine :=
  namedRoutine blockName [.mk "args" .variadic none] [.give (some e)]

/-- A block that gives an expression evaluates it with the machine below. -/
theorem runBody_give (n : Nat) (scope : Scope) (e : Expr) :
    runBody (machineAt (n + 1)) scope (givingRoutine e) = do
      match ← (do
        match ← (do return Flow.give (← (machineAt n).expr scope e) : Run Flow) with
        | .done => return .done
        | flow => return flow : Run Flow) with
      | .give v => return v
      | _ => return .none := rfl

theorem runBody_givingRoutine (n : Nat) (scope : Scope) (e : Expr) :
    runBody (machineAt (n + 1)) scope (givingRoutine e) = (machineAt n).expr scope e := by
  refine funext fun s => ?_
  change (runBody (machineAt (n + 1)) scope (givingRoutine e)).ends s =
    ((machineAt n).expr scope e).ends s
  rw [runBody_give]
  simp only [Run.ends_bind]
  rcases ((machineAt n).expr scope e).ends s with - | ⟨- | v, t⟩ <;> rfl

theorem blockUsage_give (e : Expr) :
    (blockUsage [.give (some e)]).bound = e.usage.bound ∧
      (blockUsage [.give (some e)]).declared = [] ∧
      (blockUsage [.give (some e)]).globals = [] ∧
      (blockUsage [.give (some e)]).yields = e.usage.yields := by
  have husage : blockUsage [.give (some e)] = .append (.ofUsage e.usage) {} := rfl
  rw [husage]
  exact ⟨List.append_nil _, rfl, rfl, Bool.or_false _⟩

theorem mem_locals_givingRoutine {e : Expr} {n : String} :
    n ∈ (givingRoutine e).locals ↔ n = "args" ∨ n ∈ e.usage.bound := by
  obtain ⟨hbound, hdeclared, -, -⟩ := blockUsage_give e
  have hlocals : (givingRoutine e).locals =
      firstOccurrences ((blockUsage [.give (some e)]).locals ["args"]) := rfl
  rw [hlocals, mem_firstOccurrences, BlockUsage.locals, hbound, hdeclared]
  simp

/-- Calling a function without parameters whose body is an expression. -/
theorem ends_call_lambdaRoutine (n serial : Nat) (e : Expr) (globals : Nat) (name : String)
    (s : State) : ∃ scope t,
      ((machineAt (n + 1)).call (.function serial (lambdaRoutine [] e) ⟨[], globals, ""⟩ name [])
        [] []).ends s = (enterBody (machineAt n) scope (lambdaRoutine [] e) e).ends t ∧
      OnlyEntered s t ∧ ∀ n,
        (lookupName scope n).ends t =
          if n ∈ e.usage.bound then (unboundLocal (α := Value) n).ends t
          else (lookupGlobal globals n).ends t := by
  refine ⟨⟨[s.frames.size], globals, name ++ ".<locals>."⟩,
    { s with frames := s.frames.push (frameOf (lambdaRoutine [] e) []) }, ?_,
    onlyEntered_push s _, fun n => ?_⟩
  · exact ends_invoke_frame (machineAt n) rfl ⟨[], globals, ""⟩
  · have hlocals : n ∈ (lambdaRoutine [] e).locals ↔ n ∈ e.usage.bound := mem_firstOccurrences
    rw [ends_lookupName_frameOf Array.getElem?_push_size rfl]
    simp only [hlocals]
    rfl

/-- Calling the function that a block becomes if it gives an expression. -/
theorem ends_call_givingRoutine (n serial : Nat) (e : Expr) (globals : Nat) (name : String)
    (s : State) : ∃ scope t,
      ((machineAt (n + 2)).call (.function serial (givingRoutine e) ⟨[], globals, ""⟩ name [])
        [] []).ends s = (enterBody (machineAt n) scope (givingRoutine e) e).ends t ∧
      OnlyEntered s t ∧ ∀ n, n ≠ "args" →
        (lookupName scope n).ends t =
          if n ∈ e.usage.bound then (unboundLocal (α := Value) n).ends t
          else (lookupGlobal globals n).ends t := by
  obtain ⟨-, -, hglobals, hyields⟩ := blockUsage_give e
  refine ⟨⟨[s.frames.size], globals, name ++ ".<locals>."⟩,
    { s with frames := s.frames.push (frameOf (givingRoutine e) [("args", .tuple [])]) }, ?_,
    onlyEntered_push s _, fun n hn => ?_⟩
  · have hcode : (givingRoutine e).yields = e.usage.yields := hyields
    have hvalues : (bindArguments name (givingRoutine e).parameters [] [] []).ends s =
        some (.ok [("args", .tuple [])], s) := rfl
    have hcall := ends_invoke_frame (machineAt (n + 1)) hvalues ⟨[], globals, ""⟩
    rw [hcode, runBody_givingRoutine] at hcall
    exact hcall
  · have hlocals : n ∈ (givingRoutine e).locals ↔ n ∈ e.usage.bound := by
      rw [mem_locals_givingRoutine, or_iff_right hn]
    rw [ends_lookupName_frameOf Array.getElem?_push_size hglobals]
    have hlookup : [("args", Value.tuple [])].lookup n = none := by
      rw [List.lookup_cons, beq_eq_false_iff_ne.2 hn]
      rfl
    simp only [hlocals, hlookup]

/-- A call that comes to a literal gives the value of the literal. -/
theorem ends_enterBody_constant (n : Nat) (scope : Scope) (code : Routine) {k : Constant}
    {v : Value} (hv : constantValue? k = some v) {t : State} (h : t.depth < Run.maxDepth) :
    (enterBody (machineAt (n + 1)) scope code (.constant k)).ends t = some (.ok v, t) := by
  have hexpr : (machineAt (n + 1)).expr scope (.constant k) = pure v := by
    change (match constantValue? k with | some v => pure v | none => Run.leaveOpen) = _
    rw [hv]
  rw [enterBody, hexpr]
  exact Run.ends_deeper h _

/-! ### Both paths -/

/-- Whether a text has a token of its own: it is not blank, and no comment only. -/
def HasToken (text : String) : Prop :=
  ∀ tokens, tokens? (bodyText text) = some tokens → 3 < tokens.length

/-- Whether all line breaks of a text stand outside of its quoted texts. -/
def QuotesInLine (text : String) : Prop :=
  ∀ tokens, tokens? (bodyText text) = some tokens → ∀ t ∈ tokens, t.holdsBreak = false

instance (text : String) : Decidable (HasToken text) :=
  decidable_of_iff ((tokens? (bodyText text)).all fun tokens => decide (3 < tokens.length)) <| by
    simp [HasToken, Option.all_eq_true]

instance (text : String) : Decidable (QuotesInLine text) :=
  decidable_of_iff
    ((tokens? (bodyText text)).all fun tokens => tokens.all fun t => !t.holdsBreak) <| by
      simp [QuotesInLine, Option.all_eq_true]

theorem writes_body {text : String} (h : NoArrow text.toList) :
    Writes ("-> " ++ text) [[]] (' ' :: text.toList) where
  ne_nil := by simp
  lists := by simpa using ⟨List.nodup_nil, nofun⟩
  noArrow := by
    rw [NoArrow, List.infix_cons_iff, not_or]
    exact ⟨fun hprefix => absurd (List.cons_prefix_cons.1 hprefix).1 (by decide), h⟩
  spelled := ⟨[[]], .cons (.done nofun) .nil, by rw [String.toList_append]; rfl⟩

theorem compiled_body {settings : Settings} {text : String} {given c : Value} {s t : State}
    (harrow : NoArrow text.toList) (hgiven : IsNamespace given)
    (hc : (compileNew machine settings ("-> " ++ text) given).ends s = some (.ok c, t)) :
    ∃ e serial serial' source globals name,
      Expr.read? (bodyText text) = some e ∧
      c = .compiled serial source
        (.function serial' (lambdaRoutine [] e) ⟨[], globals, ""⟩ name []) ∧
      t.depth = s.depth ∧ t.cells[globals]? = some (.dict (globalEntries s given)) := by
  have hwrites := writes_body harrow
  obtain ⟨source, f, log, compilers, hresult, rfl, rfl⟩ := compiled_of_ends_compileNew hgiven hc
  obtain ⟨hread, e, he, rfl⟩ := compileResult_eq_ok hresult
  obtain ⟨source', hread', -, -, hlists, hfinal⟩ :=
    read_of_writes hwrites settings.operandName.toList settings.receiver.toList
  cases hread.symm.trans hread'
  have hbody : bodyText source.finalBody = bodyText text := by
    rw [hfinal, bodyText, String.toList_ofList, trim_trimStart]
    rfl
  rw [hbody] at he
  cases source with
  | last _ _ parameters _ =>
    obtain rfl : parameters = [] := (List.cons.inj hlists).1
    exact ⟨e, _, _, _, _, _, he, rfl, rfl, Array.getElem?_push_size⟩
  | stage _ _ _ inner =>
    rw [Source.parameterLists, parameterLists_eq inner] at hlists
    cases hlists

theorem blockFunction_eq_ok {text : String} {code : Routine} (h : blockFunction text = .ok code) :
    ∃ name parameters hints body,
      Stmt.readModule? (blockDefinition text) = some [.define name parameters hints body] ∧
      code = namedRoutine name parameters body := by
  unfold blockFunction at h
  split at h
  · next name parameters hints body hread =>
    split at h
    · cases h
      exact ⟨name, parameters, hints, body, hread, rfl⟩
    · cases h
  · cases h

/-- The function of a block that gives a text gives what is read from the text as a body. -/
theorem blockFunction_return {text : String} {code : Routine} {e : Expr}
    (henclosed : BreaksEnclosed text.toList) (hown : HasToken text) (hquoted : QuotesInLine text)
    (he : Expr.read? (bodyText text) = some e) (h : blockFunction ("return " ++ text) = .ok code) :
    code = givingRoutine e := by
  obtain ⟨name, parameters, hints, body, hread, rfl⟩ := blockFunction_eq_ok h
  obtain ⟨tokens, htokens⟩ := exists_tokens_of_read? he
  have hne : trim text.toList ≠ [] := by
    intro hnil
    have hlength := hown [.sign "(", .sign ")", .newline] (by rw [bodyText, hnil]; rfl)
    exact absurd hlength (by decide)
  have hthree : tokens ≠ [.sign "(", .sign ")", .newline] := by
    rintro rfl
    exact absurd (hown _ htokens) (by decide)
  cases define_of_return henclosed hne htokens hthree (hquoted tokens htokens) he hread
  rfl

theorem blockResult_eq_ok {text : String} {code : Routine} (h : blockResult text = .ok code) :
    blockFunction text = .ok code := by
  unfold blockResult at h
  split at h
  · cases h
  · cases hcode : blockFunction text with
    | error fault =>
      rw [hcode] at h
      cases h
    | ok found =>
      rw [hcode] at h
      cases h
      rfl

/-- What is compiled from a block: its function has its own name among its global names. -/
theorem compiled_block {text : String} {given c : Value} {s t : State} (hgiven : IsNamespace given)
    (hc : (compileBlock machine (.text text) given).ends s = some (.ok c, t)) :
    ∃ code serial serial' source globals name entries,
      blockFunction text = .ok code ∧
      c = .compiled serial source (.function serial' code ⟨[], globals, ""⟩ name []) ∧
      t.depth = s.depth ∧ t.cells[globals]? = some (.dict entries) ∧
      ∀ n, n ≠ blockName →
        entryValue? entries.toList n = entryValue? (globalEntries s given).toList n := by
  obtain ⟨log, hends⟩ := ends_compileBlock machine text hgiven s
  rw [hends] at hc
  cases hresult : blockResult text with
  | error fault =>
    rw [hresult] at hc
    cases hc
  | ok code =>
    rw [hresult] at hc
    cases hc
    refine ⟨code, _, _, _, _, _, _, blockResult_eq_ok hresult, rfl, rfl, Array.getElem?_push_size,
      fun n hn => ?_⟩
    rw [blockEntries, toList_addEntry, entryValue?_putEntry_of_ne]
    exact fun h => hn (Value.text.inj h).symm

/-- Calling what is compiled from an expression behind an arrow, and what is compiled from a block
that gives the expression, evaluates the same expression, in scopes where all names but those of
the block's own function mean the same. The line breaks of the text have to be enclosed, and to
stand outside of its quoted texts. A literal has the same value in both places. -/
theorem returned_as_given {settings : Settings} {text : String} {given c c' : Value}
    {s s₁ s₂ : State} (henclosed : BreaksEnclosed text.toList) (harrow : NoArrow text.toList)
    (hown : HasToken text) (hquoted : QuotesInLine text) (hgiven : IsNamespace given)
    (hc : (compileNew machine settings ("-> " ++ text) given).ends s = some (.ok c, s₁))
    (hc' : (compileBlock machine (.text ("return " ++ text)) given).ends s = some (.ok c', s₂)) :
    ∃ e scope scope' t₁ t₂,
      Expr.read? (bodyText text) = some e ∧
      (machine.call c [] []).ends s₁ =
        (enterBody (machineAt (topLevel - 2)) scope (lambdaRoutine [] e) e).ends t₁ ∧
      (machine.call c' [] []).ends s₂ =
        (enterBody (machineAt (topLevel - 3)) scope' (givingRoutine e) e).ends t₂ ∧
      OnlyEntered s₁ t₁ ∧ OnlyEntered s₂ t₂ ∧
      (∀ n, n ≠ "args" → n ≠ blockName →
        (lookupName scope n).ends t₁ = (bodyName s given e.usage.bound n).ends t₁ ∧
        (lookupName scope' n).ends t₂ = (bodyName s given e.usage.bound n).ends t₂) ∧
      ∀ k v, e = .constant k → constantValue? k = some v → s.depth < Run.maxDepth →
        (machine.call c [] []).ends s₁ = some (.ok v, t₁) ∧
        (machine.call c' [] []).ends s₂ = some (.ok v, t₂) := by
  obtain ⟨e, serial, serial', source, globals, name, he, rfl, hdepth, hcell⟩ :=
    compiled_body harrow hgiven hc
  obtain ⟨code, serial₂, serial₂', source₂, globals₂, name₂, entries, hcode, rfl, hdepth₂, hcell₂,
    hentries⟩ := compiled_block hgiven hc'
  obtain rfl := blockFunction_return henclosed hown hquoted he hcode
  obtain ⟨n, hn⟩ : ∃ n, topLevel = n + 4 := ⟨topLevel - 4, by decide⟩
  obtain ⟨scope, t₁, hcall, ht₁, hnames⟩ :=
    ends_call_lambdaRoutine (n + 2) serial' e globals name s₁
  obtain ⟨scope', t₂, hcall₂, ht₂, hnames₂⟩ :=
    ends_call_givingRoutine (n + 1) serial₂' e globals₂ name₂ s₂
  rw [machine, hn]
  refine ⟨e, scope, scope', t₁, t₂, he, hcall, hcall₂, ht₁, ht₂, fun n hargs hblock => ?names,
    ?literals⟩
  case names =>
    rw [hnames, hnames₂ n hargs]
    by_cases hbound : n ∈ e.usage.bound
    · simp only [bodyName, if_pos hbound, and_self]
    · rw [if_neg hbound, if_neg hbound]
      constructor
      · refine @ends_lookupGlobal_namespace s t₁ given globals _ blockName (fun _ _ => rfl)
          (by decide) ?_ e.usage.bound n hblock hbound
        obtain ⟨frames, serial, rfl⟩ := ht₁
        exact hcell
      · refine ends_lookupGlobal_namespace hentries (by decide) ?_ hblock hbound
        obtain ⟨frames, serial, rfl⟩ := ht₂
        exact hcell₂
  case literals =>
    rintro k v rfl hv hlt
    exact ⟨hcall.trans (ends_enterBody_constant _ _ _ hv (ht₁.depth ▸ hdepth ▸ hlt)),
      hcall₂.trans (ends_enterBody_constant _ _ _ hv (ht₂.depth ▸ hdepth₂ ▸ hlt))⟩

/-! ### Texts with line breaks -/

theorem exists_compiled_body {text : String} {e : Expr} (harrow : NoArrow text.toList)
    (hblank : (trim text.toList).isEmpty = false) (hnull : hasNull text.toList = false)
    (he : Expr.read? (bodyText text) = some e) (hfunction : isFunction [] e = true) :
    ∃ c t, (compileNew machine {} ("-> " ++ text) .none).ends {} = some (.ok c, t) := by
  let settings : Settings := {}
  obtain ⟨source, hread, -, -, hlists, hfinal⟩ :=
    read_of_writes (writes_body harrow) settings.operandName.toList settings.receiver.toList
  have hbody : source.finalBody.toList = trimStart text.toList := by
    rw [hfinal, String.toList_ofList]
    rfl
  have hnull' : hasNull source.finalBody.toList = false := by
    rw [hbody, hasNull, List.contains_eq_mem, decide_eq_false_iff_not]
    rw [hasNull, List.contains_eq_mem, decide_eq_false_iff_not] at hnull
    exact fun hmem => hnull ((List.dropWhile_suffix _).subset hmem)
  have hparse : parseBody source = .ok e := by
    have htrim : trim source.finalBody.toList = trim text.toList := by rw [hbody, trim_trimStart]
    have he' : Expr.read? (bodyText source.finalBody) = some e := by rwa [bodyText, htrim]
    rw [parseBody, htrim, hblank, he']
    rfl
  have hresult : compileResult settings ("-> " ++ text) = .ok (source, [], e) := by
    cases source with
    | last _ _ parameters _ =>
      obtain rfl : parameters = [] := (List.cons.inj hlists).1
      rw [compileResult_of_read hread, sourceResult, hnull', sourceFunction, hparse]
      change (Except.mapError faultError (if isFunction [] e then _ else _)).map _ = _
      rw [hfunction]
      rfl
    | stage _ _ _ inner =>
      rw [Source.parameterLists, parameterLists_eq inner] at hlists
      cases hlists
  obtain ⟨log, compilers, hends⟩ := ends_compileNew machine
    (show Settings.cacheSize {} < maxCapacity by decide) ("-> " ++ text)
    (show IsNamespace .none from trivial) {}
  rw [hresult] at hends
  exact ⟨_, _, hends⟩

theorem exists_compiled_block {text : String} {code : Routine} (hnull : hasNull text.toList = false)
    (hcode : blockFunction text = .ok code) :
    ∃ c t, (compileBlock machine (.text text) .none).ends {} = some (.ok c, t) := by
  obtain ⟨log, hends⟩ := ends_compileBlock machine text (show IsNamespace .none from trivial) {}
  have hresult : blockResult text = .ok code := by
    rw [blockResult, hnull, hcode]
    rfl
  rw [hresult] at hends
  exact ⟨_, _, hends⟩

/-- A quoted text that goes over two lines. -/
def twoLines : String := String.ofList ['"', '"', '"', 'a', '\n', 'b', '"', '"', '"']

/-- A text between parentheses that go over two lines. -/
def enclosedText : String := String.ofList ['(', '\n', '"', 'a', '"', ')']

/-- Whether an expression is a given text. -/
def isLiteral (s : String) : Option Expr → Bool
  | some (.constant (.text t)) => t == s
  | _ => false

theorem eq_of_isLiteral {s : String} {e : Option Expr} (h : isLiteral s e = true) :
    e = some (.constant (.text s)) := by
  unfold isLiteral at h
  split at h
  · rw [beq_iff_eq.1 h]
  · cases h

/-- Whether statements define the function of a block that gives a text. -/
def givesLiteral (s : String) : Option (List Stmt) → Bool
  | some [.define "strlambda_fn" [.mk "args" .variadic none] [] [.give e]] => isLiteral s e
  | _ => false

theorem eq_of_givesLiteral {s : String} {b : Option (List Stmt)} (h : givesLiteral s b = true) :
    b = some [.define "strlambda_fn" [.mk "args" .variadic none] []
      [.give (some (.constant (.text s)))]] := by
  unfold givesLiteral at h
  split at h
  · rw [eq_of_isLiteral h]
  · cases h

theorem blockFunction_of_readModule? {text name : String} {parameters : List Parameter}
    {hints : List Expr} {body : List Stmt}
    (h : Stmt.readModule? (blockDefinition text) = some [.define name parameters hints body])
    (hmodule : isModule [.define name parameters hints body] = true) :
    blockFunction text = .ok (namedRoutine name parameters body) := by
  unfold blockFunction
  generalize Stmt.readModule? (blockDefinition text) = block at h
  subst h
  exact if_pos hmodule

theorem blockFunction_of_givesLiteral {text s : String}
    (h : givesLiteral s (Stmt.readModule? (blockDefinition text)) = true) :
    blockFunction text = .ok (givingRoutine (.constant (.text s))) :=
  blockFunction_of_readModule? (eq_of_givesLiteral h) rfl

theorem noArrow_of_not_mem {text : List Char} (h : '-' ∉ text) : NoArrow text :=
  fun hin => h (hin.subset (by simp))

/-- A quoted text that goes over two lines has a margin in its second line if a block gives it. -/
theorem literal_takes_margin :
    BreaksEnclosed twoLines.toList ∧ NoArrow twoLines.toList ∧ HasToken twoLines ∧
    ∃ c c' s₁ s₂ t₁ t₂,
      (compileNew machine {} ("-> " ++ twoLines) .none).ends {} = some (.ok c, s₁) ∧
      (compileBlock machine (.text ("return " ++ twoLines)) .none).ends {} = some (.ok c', s₂) ∧
      (machine.call c [] []).ends s₁ = some (.ok (.text "a\nb"), t₁) ∧
      (machine.call c' [] []).ends s₂ = some (.ok (.text "a\n    b"), t₂) := by
  have hread : Expr.read? (bodyText twoLines) = some (.constant (.text "a\nb")) :=
    eq_of_isLiteral (by decide +kernel)
  have hblock : blockFunction ("return " ++ twoLines) =
      .ok (givingRoutine (.constant (.text "a\n    b"))) :=
    blockFunction_of_givesLiteral (by decide +kernel)
  have harrow : NoArrow twoLines.toList := noArrow_of_not_mem (by decide +kernel)
  have hnone : IsNamespace .none := trivial
  obtain ⟨c, s₁, hc⟩ :=
    exists_compiled_body harrow (by decide +kernel) (by decide +kernel) hread rfl
  obtain ⟨c', s₂, hc'⟩ := exists_compiled_block (by decide +kernel) hblock
  obtain ⟨e, serial, serial', source, globals, name, he, rfl, hdepth, -⟩ :=
    compiled_body harrow hnone hc
  cases hread.symm.trans he
  obtain ⟨code, serial₂, serial₂', source₂, globals₂, name₂, entries, hcode, rfl, hdepth₂, -, -⟩ :=
    compiled_block hnone hc'
  cases hblock.symm.trans hcode
  obtain ⟨n, hn⟩ : ∃ n, topLevel = n + 4 := ⟨topLevel - 4, by decide⟩
  obtain ⟨scope, t₁, hcall, ht₁, -⟩ := ends_call_lambdaRoutine (n + 2) serial' _ globals name s₁
  obtain ⟨scope', t₂, hcall₂, ht₂, -⟩ :=
    ends_call_givingRoutine (n + 1) serial₂' _ globals₂ name₂ s₂
  rw [machine, hn] at hc hc' ⊢
  refine ⟨by decide +kernel, harrow, by decide +kernel, _, _, s₁, s₂, t₁, t₂, hc, hc',
    hcall.trans (ends_enterBody_constant _ _ _ rfl ?_),
    hcall₂.trans (ends_enterBody_constant _ _ _ rfl ?_)⟩
  · rw [ht₁.depth, hdepth]
    decide
  · rw [ht₂.depth, hdepth₂]
    decide

/-- A literal in parentheses over two lines has the same value in both places. -/
theorem returned_as_given_enclosed :
    ∃ c c' s₁ s₂ t₁ t₂,
      (compileNew machine {} ("-> " ++ enclosedText) .none).ends {} = some (.ok c, s₁) ∧
      (compileBlock machine (.text ("return " ++ enclosedText)) .none).ends {} =
        some (.ok c', s₂) ∧
      (machine.call c [] []).ends s₁ = some (.ok (.text "a"), t₁) ∧
      (machine.call c' [] []).ends s₂ = some (.ok (.text "a"), t₂) := by
  have hread : Expr.read? (bodyText enclosedText) = some (.constant (.text "a")) :=
    eq_of_isLiteral (by decide +kernel)
  have hblock : blockFunction ("return " ++ enclosedText) =
      .ok (givingRoutine (.constant (.text "a"))) :=
    blockFunction_of_givesLiteral (by decide +kernel)
  have harrow : NoArrow enclosedText.toList := noArrow_of_not_mem (by decide +kernel)
  obtain ⟨c, s₁, hc⟩ :=
    exists_compiled_body harrow (by decide +kernel) (by decide +kernel) hread rfl
  obtain ⟨c', s₂, hc'⟩ := exists_compiled_block (by decide +kernel) hblock
  obtain ⟨e, scope, scope', t₁, t₂, he, -, -, -, -, -, hliteral⟩ := returned_as_given
    (show BreaksEnclosed enclosedText.toList by decide +kernel) harrow
    (show HasToken enclosedText by decide +kernel)
    (show QuotesInLine enclosedText by decide +kernel) (show IsNamespace .none from trivial) hc hc'
  obtain ⟨hcall, hcall'⟩ := hliteral _ _ (Option.some.inj (he.symm.trans hread)) rfl (by decide)
  exact ⟨c, c', s₁, s₂, t₁, t₂, hc, hc', hcall, hcall'⟩

end LambdaText
