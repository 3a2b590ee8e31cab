import LambdaText.Proofs.Datum.Written

/-!
# Reading what data are written as

What a datum is written as is one expression, which denotes the datum.
-/

namespace LambdaText

open LambdaText.Code LambdaText.Code.Reader LambdaText.Text

namespace Datum

mutual

/-- The expression that is read from what a datum is written as. -/
def expr : Datum → Expr
  | .bool b => .constant (.bool b)
  | .int i =>
    if i < 0 then .unary .negate (.constant (.number (.int i.natAbs)))
    else .constant (.number (.int i.natAbs))
  | .text s => .constant (.text s)
  | .tuple items => .tuple (exprs items)
  | .list items => .list (exprs items)
  | .dict entries => .dict (entryExprs entries)
  | _ => .constant .none

def exprs : List Datum → List Expr
  | [] => []
  | d :: rest => expr d :: exprs rest

/-- The entries of a dictionary display, one by one. -/
def entryExprs : List (Datum × Datum) → List Entry
  | [] => []
  | e :: rest => entryExpr e :: entryExprs rest

/-- The entry of a dictionary display. -/
def entryExpr : Datum × Datum → Entry
  | (k, d) => .pair (expr k) (expr d)

end

theorem exprs_eq (items : List Datum) : exprs items = items.map expr := by
  induction items with
  | nil => rfl
  | cons d items ih => rw [exprs, ih, List.map_cons]

theorem entryExprs_eq (entries : List (Datum × Datum)) :
    entryExprs entries = entries.map entryExpr := by
  induction entries with
  | nil => rfl
  | cons e entries ih => rw [entryExprs, ih, List.map_cons]

theorem opensPlain_tokens (d : Datum) : OpensPlain d.tokens := by
  intro t ht
  cases d with
  | bool b =>
    cases ht
    cases b <;> rfl
  | int i =>
    rw [tokens] at ht
    split at ht <;>
      · cases ht
        rfl
  | _ =>
    cases ht
    rfl

end Datum

namespace Code

section Levels

variable {self : Goal → Reader Expr} {field : List Char → Option Expr}

theorem readsBefore_item {row : List Token} {e : Expr} (hopen : OpensPlain row)
    (h : ReadsBefore (expression self field) row e) : ReadsBefore (item self field) row e := by
  obtain ⟨t, row', rfl⟩ := List.exists_cons_of_ne_nil h.1
  refine ⟨h.1, fun rest hrest => ?_⟩
  have ht := hopen t rfl
  rw [List.cons_append, item,
    bind_of_eq_some (acceptSign_of_not (isSign_of_opensPlain ht (by decide)) _),
    if_neg Bool.false_ne_true, named, bind_of_eq_some (startsAssignment_of_opensPlain ht _),
    if_neg Bool.false_ne_true]
  exact h.2 rest hrest

/-- One more quoted text of a row. -/
def quotedStep (field : List Char → Option Expr) (u : List (List UInt8 ⊕ List Piece) × Bool) :
    Reader (Option (List (List UInt8 ⊕ List Piece) × Bool)) := do
  match ← peek? with
  | some (.quoted mark body) =>
    skip
    match quotedPart field mark body with
    | some part => return some (part :: u.1, u.2 || mark.contains 'f')
    | none => failure
  | _ => return none

theorem quotedRow_eq (field : List Char → Option Expr) : quotedRow field = (do
    let u ← iterate (quotedStep field) ([], false)
    match joinQuoted u.1.reverse u.2 with
    | some e => return e
    | none => failure) := rfl

theorem quotedStep_of_halts (u : List (List UInt8 ⊕ List Piece) × Bool) {rest : List Token}
    (h : Halts rest) : quotedStep field u rest = some (none, rest) := by
  cases h with
  | cons ht rest =>
    simp only [haltTokens, List.mem_cons, List.not_mem_nil, or_false] at ht
    rcases ht with rfl | rfl | rfl | rfl | rfl | rfl | rfl <;> rfl

theorem quotedRow_text {body s : List Char}
    (hbody : textPoints? false body = some (s.map Char.toNat))
    {rest : List Token} (hrest : Halts rest) :
    quotedRow field (.quoted [] body :: rest) =
      some (.constant (.text (String.ofList s)), rest) := by
  have hpart : quotedPart field [] body = some (.inr [.text (String.ofList s)]) := by
    simp [quotedPart, hbody, pieceOf, ofPoints_toNat]
  have hstep : quotedStep field ([], false) (.quoted [] body :: rest) =
      some (some ([.inr [.text (String.ofList s)]], false), rest) := by
    have hpeek : peek? (.quoted [] body :: rest) =
        some (some (.quoted [] body), .quoted [] body :: rest) := rfl
    have hskip : skip (.quoted [] body :: rest) = some ((), rest) := rfl
    refine (bind_of_eq_some hpeek).trans ((bind_of_eq_some hskip).trans ?_)
    rw [hpart]
    rfl
  have hrow : iterate (quotedStep field) ([], false) (.quoted [] body :: rest) =
      some (([.inr [.text (String.ofList s)]], false), rest) := by
    rw [iterate_apply, iterateFor_of_some hstep, List.length_cons,
      iterateFor_of_none (quotedStep_of_halts _ hrest)]
  have hjoin : joinQuoted [.inr [.text (String.ofList s)]] false =
      some (.constant (.text (String.ofList s))) := by
    simp [joinQuoted, plainPoints, ofPoints_toNat]
  rw [quotedRow_eq, bind_of_eq_some hrow]
  simp only [List.reverse_singleton, hjoin]
  rfl

end Levels

theorem length_le_commaTokens {rows : List (List Token)} {row : List Token} (h : row ∈ rows) :
    row.length ≤ (commaTokens rows).length := by
  cases rows with
  | nil => cases h
  | cons first rows =>
    rw [commaTokens_cons, List.length_append]
    rcases List.mem_cons.1 h with rfl | hmem
    · exact Nat.le_add_right _ _
    · have hsub : List.Sublist (.sign "," :: row) (commaTail rows) := by
        rw [commaTail, List.flatMap_def]
        exact List.sublist_flatten_of_mem (List.mem_map_of_mem hmem)
      exact Nat.le_trans (Nat.le_succ _) (Nat.le_trans hsub.length_le (Nat.le_add_left _ _))

theorem length_le_tupleTokens (rows : List (List Token)) :
    (commaTokens rows).length ≤ (tupleTokens rows).length := by
  cases rows with
  | nil => exact Nat.le_refl _
  | cons first rows =>
    rw [tupleTokens_cons, commaTokens_cons]
    cases rows with
    | nil => simp [commaTail]
    | cons next rows => simp [commaTail, commaTokens_cons]

end Code

namespace Datum

variable {field : List Char → Option Expr}

/-- Whether the expression of a datum is read from its tokens with enough depth. -/
def Reads (field : List Char → Option Expr) (d : Datum) : Prop :=
  ∀ depth, d.tokens.length < depth →
    ReadsBefore (readNested field depth .expression) d.tokens d.expr

theorem readsBefore_atom {t : Token} {row : List Token} {e : Expr} {self : Goal → Reader Expr}
    (first : Reader Expr) (h : ∀ tokens, atom self field (t :: tokens) = first tokens)
    (hword : ∀ w ∈ ["await", "not", "lambda"], t.isWord w = false)
    (hunary : (unarySign? t).isNone)
    (hfirst : ∀ rest, Halts rest → first (row ++ rest) = some (e, rest)) :
    ReadsBefore (expression self field) (t :: row) e :=
  ⟨List.cons_ne_nil _ _, fun rest hrest => (startsWith_expression h hword
    (Option.isNone_iff_eq_none.1 hunary)).read (hfirst rest hrest) hrest⟩

theorem reads_of_expression {d : Datum}
    (h : ∀ depth, d.tokens.length ≤ depth →
      ReadsBefore (expression (readNested field depth) field) d.tokens d.expr) : Reads field d := by
  intro depth hdepth
  obtain ⟨k, rfl⟩ := Nat.exists_eq_add_of_lt hdepth
  exact h _ (Nat.le_add_right _ k)

theorem reads_none : Reads field .none :=
  reads_of_expression fun _ _ =>
    readsBefore_atom (pure _) (fun _ => rfl) (by decide) rfl fun _ _ => rfl

theorem reads_bool (b : Bool) : Reads field (.bool b) :=
  reads_of_expression fun _ _ => by
    cases b <;> exact readsBefore_atom (pure _) (fun _ => rfl) (by decide) rfl fun _ _ => rfl

theorem reads_text (s : String) : Reads field (.text s) := by
  refine reads_of_expression fun depth _ => readsBefore_atom _ (fun _ => rfl) (fun _ _ => rfl) rfl
    fun rest hrest => ?_
  have hbody := textPoints?_escaped (isQuoteChar_chooseQuote s.toList) s.toList
  exact (quotedRow_text hbody hrest).trans (by rw [String.ofList_toList, expr])

/-- A number with a sign in front. -/
theorem startsWith_minus (self : Goal → Reader Expr) (field : List Char → Option Expr) :
    StartsWith (.sign "-") (do return Expr.unary .negate (← self .factor)) (factor self field) :=
  ⟨pure, fun tokens => by rw [factor_eq, bind_pure]; rfl, fun _ _ _ => rfl⟩

theorem reads_int (i : Int) : Reads field (.int i) := by
  refine reads_of_expression fun depth hdepth => ?_
  by_cases hneg : i < 0
  · rw [tokens, if_pos hneg] at hdepth
    obtain ⟨k, rfl⟩ := Nat.exists_eq_add_of_le' hdepth
    rw [tokens, expr, if_pos hneg, if_pos hneg]
    refine ⟨List.cons_ne_nil _ _, fun rest hrest => ?_⟩
    have hstarts : StartsWith (.numeral (.int i.natAbs)) (pure (.constant (.number (.int i.natAbs))))
        (factor (readNested field (k + 1)) field) := startsWith_factor (fun _ => rfl) rfl rfl
    have hnumber : readNested field (k + 2) .factor (.numeral (.int i.natAbs) :: rest) =
        some (.constant (.number (.int i.natAbs)), rest) := hstarts.read rfl hrest
    exact (startsWith_expression_of_factor (startsWith_minus _ field) rfl rfl).read
      (bind_of_eq_some hnumber) hrest
  · rw [tokens, expr, if_neg hneg, if_neg hneg]
    exact readsBefore_atom (pure _) (fun _ => rfl) (fun _ _ => rfl) rfl fun _ _ => rfl

/-- With the depth for a datum there is enough for its part as an item. -/
theorem Reads.item {d : Datum} (h : Reads field d) {depth : Nat} (hdepth : d.tokens.length < depth) :
    ReadsBefore (readNested field depth .item) d.tokens d.expr := by
  have hread := h depth hdepth
  obtain ⟨k, rfl⟩ := Nat.exists_eq_add_of_lt hdepth
  exact readsBefore_item d.opensPlain_tokens hread

theorem length_le_of_mem_items {items : List Datum} {d : Datum} (h : d ∈ items) :
    d.tokens.length ≤ (commaTokens (tokenRows items)).length := by
  rw [tokenRows_eq]
  exact length_le_commaTokens (List.mem_map_of_mem h)

theorem readsBefore_items {items : List Datum} (h : ∀ d ∈ items, Reads field d) {depth : Nat}
    (hdepth : (commaTokens (tokenRows items)).length < depth) :
    List.Forall₂ (ReadsBefore (readNested field depth .item)) (tokenRows items) (exprs items) := by
  rw [tokenRows_eq, exprs_eq, List.forall₂_map_left_iff, List.forall₂_map_right_iff,
    List.forall₂_same]
  intro d hd
  have hlength : d.tokens.length ≤ (commaTokens (tokenRows items)).length := length_le_of_mem_items hd
  exact (h d hd).item (by omega)

theorem opensPlain_tokenRows (items : List Datum) : ∀ row ∈ tokenRows items, OpensPlain row := by
  rw [tokenRows_eq, List.forall_mem_map]
  exact fun d _ => d.opensPlain_tokens

theorem reads_tuple {items : List Datum} (h : ∀ d ∈ items, Reads field d) :
    Reads field (.tuple items) := by
  refine reads_of_expression fun depth hdepth => ?_
  have hlength := length_le_tupleTokens (tokenRows items)
  rw [tokens, List.length_cons, List.length_append, List.length_singleton] at hdepth
  have hitems := @readsBefore_items field items h depth (by omega)
  refine readsBefore_atom _ (fun _ => rfl) (fun _ _ => rfl) rfl fun rest _ => ?_
  rw [List.append_assoc, List.singleton_append]
  exact parenthesized_rows hitems (opensPlain_tokenRows items) rest

theorem reads_list {items : List Datum} (h : ∀ d ∈ items, Reads field d) :
    Reads field (.list items) := by
  refine reads_of_expression fun depth hdepth => ?_
  rw [tokens, List.length_cons, List.length_append, List.length_singleton] at hdepth
  have hitems := @readsBefore_items field items h depth (by omega)
  refine readsBefore_atom _ (fun _ => rfl) (fun _ _ => rfl) rfl fun rest _ => ?_
  rw [List.append_assoc, List.singleton_append]
  exact listDisplay_rows hitems (opensPlain_tokenRows items) rest

theorem reads_dict {entries : List (Datum × Datum)} (hkeys : ∀ e ∈ entries, Reads field e.1)
    (hvalues : ∀ e ∈ entries, Reads field e.2) : Reads field (.dict entries) := by
  refine reads_of_expression fun depth hdepth => ?_
  rw [tokens, List.length_cons, List.length_append, List.length_singleton] at hdepth
  have hentries : List.Forall₂ (ReadsEntry (readNested field depth)) (entryRows entries)
      (entryExprs entries) := by
    rw [entryRows_eq, entryExprs_eq, List.forall₂_map_left_iff, List.forall₂_map_right_iff,
      List.forall₂_same]
    rintro ⟨k, d⟩ he
    have hlength : (entryTokens (k, d)).length ≤ (commaTokens (entryRows entries)).length := by
      rw [entryRows_eq]
      exact length_le_commaTokens (List.mem_map_of_mem he)
    rw [entryTokens, List.length_append, List.length_cons] at hlength
    have hkey : Reads field k := hkeys _ he
    have hvalue : Reads field d := hvalues _ he
    exact .pair k.opensPlain_tokens (hkey.item (by omega)) (hkey depth (by omega))
      (hvalue depth (by omega))
  refine readsBefore_atom _ (fun _ => rfl) (fun _ _ => rfl) rfl fun rest _ => ?_
  rw [List.append_assoc, List.singleton_append]
  exact braceDisplay_rows hentries rest

theorem IsPlain.reads {n : Nat} {d : Datum} (h : d.IsPlain n)
    (field : List Char → Option Expr) : Reads field d := by
  induction h with
  | none => exact reads_none
  | bool _ b => exact reads_bool b
  | @int _ i _ => exact reads_int i
  | text _ s => exact reads_text s
  | tuple _ ih => exact reads_tuple ih
  | list _ ih => exact reads_list ih
  | dict _ _ _ _ ihkeys ihvalues => exact reads_dict ihkeys ihvalues

/-! ### What the expression denotes -/

theorem addEntry_of_new {key value : Datum} {entries : List (Datum × Datum)}
    (h : ∀ e ∈ entries, e.1.sameKey key = false) :
    addEntry key value entries = entries ++ [(key, value)] := by
  induction entries with
  | nil => rfl
  | cons e entries ih =>
    rw [List.forall_mem_cons] at h
    rw [addEntry, h.1, if_neg Bool.false_ne_true, ih h.2, List.cons_append]

theorem ofExprs_exprs {items : List Datum} (h : ∀ d ∈ items, ofExpr d.expr = .ok d) :
    ofExprs (exprs items) = .ok items := by
  induction items with
  | nil => rfl
  | cons d items ih =>
    rw [List.forall_mem_cons] at h
    rw [exprs, ofExprs, h.1, ih h.2]
    rfl

theorem ofEntries_entryExprs {before entries : List (Datum × Datum)}
    (hkeys : ∀ e ∈ entries, ofExpr e.1.expr = .ok e.1)
    (hvalues : ∀ e ∈ entries, ofExpr e.2.expr = .ok e.2)
    (hproper : ∀ e ∈ entries, e.1.badKey? = Option.none)
    (hdistinct : (before ++ entries).Pairwise fun a b => a.1.sameKey b.1 = false) :
    ofEntries before (entryExprs entries) = .ok (before ++ entries) := by
  induction entries generalizing before with
  | nil =>
    rw [List.append_nil]
    rfl
  | cons e entries ih =>
    obtain ⟨k, d⟩ := e
    rw [List.forall_mem_cons] at hkeys hvalues hproper
    have hnew : addEntry k d before = before ++ [(k, d)] :=
      addEntry_of_new fun e he => (List.pairwise_append.1 hdistinct).2.2 e he (k, d) (by simp)
    have happend : before ++ (k, d) :: entries = (before ++ [(k, d)]) ++ entries := by simp
    have hcheck : checkKey k = .ok () := by rw [checkKey, hproper.1]
    rw [happend] at hdistinct ⊢
    rw [entryExprs, entryExpr, ofEntries, hkeys.1, hvalues.1]
    refine (congrArg (fun r : Except LiteralDefect Unit => r >>= fun _ =>
      ofEntries (addEntry k d before) (entryExprs entries)) hcheck).trans ?_
    rw [hnew]
    exact ih hkeys.2 hvalues.2 hproper.2 hdistinct

theorem ofExpr_int (i : Int) : ofExpr (expr (.int i)) = .ok (.int i) := by
  by_cases hneg : i < 0
  · have hvalue : -(i.natAbs : Int) = i := by omega
    rw [expr, if_pos hneg]
    change Except.ok (Datum.int (-(i.natAbs : Int))) = _
    rw [hvalue]
  · have hvalue : (i.natAbs : Int) = i := by omega
    rw [expr, if_neg hneg]
    change Except.ok (Datum.int (i.natAbs : Int)) = _
    rw [hvalue]

theorem IsPlain.ofExpr {n : Nat} {d : Datum} (h : d.IsPlain n) : Datum.ofExpr d.expr = .ok d := by
  induction h with
  | none => rfl
  | bool _ b => rfl
  | @int _ i _ => exact ofExpr_int i
  | text _ s => rfl
  | tuple _ ih => rw [expr, Datum.ofExpr, ofExprs_exprs ih]; rfl
  | list _ ih => rw [expr, Datum.ofExpr, ofExprs_exprs ih]; rfl
  | dict _ _ hproper hdistinct ihkeys ihvalues =>
    rw [expr, Datum.ofExpr, @ofEntries_entryExprs [] _ ihkeys ihvalues hproper hdistinct]
    rfl

/-! ### Texts -/

theorem Reads.readLevel {d : Datum} (h : Reads field d) :
    ReadsBefore (Code.readLevel field .expression) d.tokens d.expr := by
  refine ⟨(h _ (Nat.lt_succ_self _)).1, fun rest hrest => ?_⟩
  have hdepth : d.tokens.length < 3 * (d.tokens ++ rest).length + 3 := by
    rw [List.length_append]
    omega
  exact (h _ hdepth).2 rest hrest

theorem IsPlain.read? {d : Datum} (h : d.IsPlain maxBrackets) :
    Expr.read? d.writtenForm.toList = some d.expr := by
  have hrow : ∀ field, commaItems (Code.readLevel field .expression) (d.tokens ++ [.newline]) =
      some (([d.expr], false), [.newline]) := by
    intro field
    have hitem := (h.reads field).readLevel
    simpa [commaTokens] using commaItems_rows hitem .nil (t := .newline) (by simp [haltTokens]) rfl []
  rw [Expr.read?, h.tokens?_writtenForm]
  change readAll _ (d.tokens ++ [.newline]) = _
  rw [readAll, bind_of_eq_some (hrow _)]
  rfl

theorem IsPlain.ofLiteral {d : Datum} (h : d.IsPlain maxBrackets) :
    Datum.ofLiteral d.writtenForm.toList = .ok d := by
  have hnull : d.writtenForm.toList.contains (Char.ofNat 0) = false := by
    rw [List.contains_eq_mem, decide_eq_false_iff_not]
    intro hmem
    exact absurd (List.all_eq_true.1 h.isPrintable_writtenForm _ hmem) (by decide)
  have hindent : d.writtenForm.toList.dropWhile isIndent = d.writtenForm.toList := by
    have hstart := d.startsToken_writtenForm
    cases htext : d.writtenForm.toList with
    | nil => rfl
    | cons c text =>
      rw [htext] at hstart
      have hc : startsToken c = true := hstart
      have hnot : isIndent c = false := by
        simp only [startsToken, Bool.not_eq_true', Bool.or_eq_false_iff] at hc
        simp [isIndent, hc]
      rw [List.dropWhile_cons, hnot, if_neg Bool.false_ne_true]
  rw [Datum.ofLiteral, hnull, if_neg Bool.false_ne_true, hindent, h.read?]
  exact h.ofExpr

theorem IsPlain.ofArgument {d : Datum} (h : d.IsPlain maxBrackets) :
    Datum.ofArgument d.writtenForm = .ok d := by
  rw [Datum.ofArgument, h.ofLiteral]

end Datum

end LambdaText
