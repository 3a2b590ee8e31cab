import LambdaText.Proofs.Code.Blocks
import LambdaText.Proofs.Code.Starts

/-!
# Blocks that give an expression

A row of expressions behind the word that gives a result is read as it is between parentheses, if it
can be read in both places. So a block that gives an expression gives the one that is read from the
same text as a body.
-/

namespace LambdaText.Code

open Reader LambdaText.Text

/-! ### Rows of items -/

section Items

variable {α : Type} {item : Reader α} {tokens rest : List Token}

theorem isSign_iff {t : Token} {x : String} : t.isSign x = true ↔ t = .sign x := by
  cases t <;> simp [Token.isSign]

theorem isWord_iff {t : Token} {w : String} : t.isWord w = true ↔ t = .word w := by
  cases t <;> simp [Token.isWord]

/-- A token that may be next was next, or was not. -/
theorem cases_of_accept {test : Token → Bool} {b : Bool}
    (h : accept test tokens = some (b, rest)) :
    (b = true ∧ ∃ t, tokens = t :: rest ∧ test t = true) ∨
      (b = false ∧ rest = tokens ∧ ∀ t ∈ tokens.head?, test t = false) := by
  cases tokens with
  | nil =>
    cases h
    exact .inr ⟨rfl, rfl, nofun⟩
  | cons t tokens =>
    rw [accept_cons] at h
    split at h
    · next ht =>
      cases h
      exact .inl ⟨rfl, t, rfl, ht⟩
    · next ht =>
      cases h
      exact .inr ⟨rfl, rfl, fun t' ht' => by cases ht'; simpa using ht⟩

theorem cases_of_acceptSign {x : String} {b : Bool} (h : acceptSign x tokens = some (b, rest)) :
    b = true ∧ tokens = .sign x :: rest ∨
      b = false ∧ rest = tokens ∧ tokens.head? ≠ some (.sign x) := by
  obtain ⟨rfl, t, rfl, ht⟩ | ⟨rfl, rfl, hhead⟩ := cases_of_accept h
  · exact .inl ⟨rfl, by rw [isSign_iff.1 ht]⟩
  · refine .inr ⟨rfl, rfl, fun hsign => ?_⟩
    cases (hhead _ hsign).symm.trans (isSign_iff.2 rfl)

theorem eq_of_expect {test : Token → Bool} {u : Unit}
    (h : expect test tokens = some (u, rest)) : ∃ t, tokens = t :: rest ∧ test t = true := by
  obtain ⟨b, middle, haccept, hrest⟩ := bind_eq_some.1 h
  obtain ⟨rfl, t, rfl, ht⟩ | ⟨rfl, -, -⟩ := cases_of_accept haccept
  · cases hrest
    exact ⟨t, rfl, ht⟩
  · cases hrest

theorem eq_of_sign {x : String} {u : Unit} (h : sign x tokens = some (u, rest)) :
    tokens = .sign x :: rest := by
  obtain ⟨t, rfl, ht⟩ := eq_of_expect h
  rw [isSign_iff.1 ht]

theorem rowStops_cons {t : Token} (h : stopsRow t = true) (tokens : List Token) :
    RowStops (t :: tokens) := by
  intro t' ht'
  cases ht'
  exact h

/-- Items with commas between them, whether there is a comma behind, and what follows. -/
inductive ReadsItems (item : Reader α) : List Token → List α → Bool → List Token → Prop
  | last {tokens a rest} : item tokens = some (a, rest) → rest.head? ≠ some (.sign ",") →
      ReadsItems item tokens [a] false rest
  | trailing {tokens a rest} : item tokens = some (a, .sign "," :: rest) → item rest = none →
      ReadsItems item tokens [a] true rest
  | more {tokens a middle as comma rest} : item tokens = some (a, .sign "," :: middle) →
      ReadsItems item middle as comma rest → ReadsItems item tokens (a :: as) comma rest

theorem readsItems_of_iterateFor {a : α} {acc out : List α} {comma : Bool} {middle : List Token}
    (hitem : item tokens = some (a, middle)) {fuel : Nat}
    (h : iterateFor (commaStep item) fuel (a :: acc, false) middle = some ((out, comma), rest)) :
    ∃ items, out.reverse = acc.reverse ++ items ∧ ReadsItems item tokens items comma rest := by
  induction fuel using Nat.strong_induction_on generalizing tokens a acc middle with
  | _ fuel ih =>
    cases fuel with
    | zero => cases h
    | succ fuel =>
      obtain ⟨next, left, hstep, h⟩ := bind_eq_some.1 h
      obtain ⟨b, left', haccept, hnext⟩ := bind_eq_some.1 hstep
      obtain ⟨rfl, rfl⟩ | ⟨rfl, rfl, hhead⟩ := cases_of_acceptSign haccept
      · obtain ⟨rfl, rfl⟩ := pure_eq_some.1 hnext
        cases fuel with
        | zero => cases h
        | succ fuel =>
          obtain ⟨next, left, hstep, h⟩ := bind_eq_some.1 h
          obtain ⟨found, left'', hoptional, hnext⟩ := bind_eq_some.1 hstep
          obtain ⟨rfl, rfl⟩ := pure_eq_some.1 hnext
          rw [Reader.optional] at hoptional
          split at hoptional
          · next b left hmore =>
            cases hoptional
            obtain ⟨items, hout, hitems⟩ := ih fuel (by omega) hmore h
            exact ⟨a :: items, by simp [hout], .more hitem hitems⟩
          · next hmore =>
            cases hoptional
            obtain ⟨hout, rfl⟩ := pure_eq_some.1 h
            cases hout
            exact ⟨[a], by simp, .trailing hitem hmore⟩
      · obtain ⟨rfl, rfl⟩ := pure_eq_some.1 hnext
        obtain ⟨hout, rfl⟩ := pure_eq_some.1 h
        cases hout
        exact ⟨[a], by simp, .last hitem hhead⟩

theorem readsItems_of_commaItems {items : List α} {comma : Bool}
    (h : commaItems item tokens = some ((items, comma), rest)) :
    ReadsItems item tokens items comma rest := by
  rw [commaItems_eq] at h
  obtain ⟨first, middle, hitem, h⟩ := bind_eq_some.1 h
  obtain ⟨⟨out, comma'⟩, left, hiterate, hpure⟩ := bind_eq_some.1 h
  obtain ⟨hout, rfl⟩ := pure_eq_some.1 hpure
  cases hout
  obtain ⟨items, hitems, hreads⟩ := readsItems_of_iterateFor hitem hiterate
  rwa [hitems]

theorem ReadsItems.starts {items : List α} {comma : Bool}
    (h : ReadsItems item tokens items comma rest) : item tokens ≠ none := by
  cases h <;> simp_all

theorem ReadsItems.ne_nil {items : List α} {comma : Bool}
    (h : ReadsItems item tokens items comma rest) : items ≠ [] := by
  cases h <;> simp

/-- Whether an item ends in front of tokens: at a comma, or where no item starts. -/
def EndsItem (tokens : List Token) : Prop :=
  tokens.head? = some (.sign ",") ∨ RowStops tokens

theorem ReadsItems.agree {other : Reader α} {items items' : List α} {comma comma' : Bool}
    {rest' : List Token}
    (hagree : ∀ ⦃tokens a middle a' middle'⦄, item tokens = some (a, middle) →
      other tokens = some (a', middle') → EndsItem middle → a' = a ∧ middle' = middle)
    (hitem : NeedsItem item) (hother : NeedsItem other)
    (h : ReadsItems item tokens items comma rest) (hstop : RowStops rest)
    (h' : ReadsItems other tokens items' comma' rest') (hstop' : RowStops rest') :
    items' = items ∧ comma' = comma ∧ rest' = rest := by
  have hcomma : ∀ {tokens : List Token}, EndsItem (.sign "," :: tokens) := .inl rfl
  induction h generalizing items' with
  | @last tokens a rest hread hhead =>
    cases h' with
    | last hread' _ =>
      obtain ⟨rfl, rfl⟩ := hagree hread hread' (.inr hstop)
      exact ⟨rfl, rfl, rfl⟩
    | trailing hread' _ =>
      obtain ⟨rfl, rfl⟩ := hagree hread hread' (.inr hstop)
      exact absurd rfl hhead
    | more hread' _ =>
      obtain ⟨rfl, rfl⟩ := hagree hread hread' (.inr hstop)
      exact absurd rfl hhead
  | @trailing tokens a rest hread hnone =>
    cases h' with
    | last hread' hhead' =>
      obtain ⟨rfl, rfl⟩ := hagree hread hread' hcomma
      exact absurd rfl hhead'
    | trailing hread' _ =>
      obtain ⟨rfl, hrest⟩ := hagree hread hread' hcomma
      cases hrest
      exact ⟨rfl, rfl, rfl⟩
    | more hread' hmore =>
      obtain ⟨rfl, hrest⟩ := hagree hread hread' hcomma
      cases hrest
      exact absurd (hother hstop) hmore.starts
  | @more tokens a middle as comma rest hread hmore ih =>
    cases h' with
    | last hread' hhead' =>
      obtain ⟨rfl, rfl⟩ := hagree hread hread' hcomma
      exact absurd rfl hhead'
    | trailing hread' _ =>
      obtain ⟨rfl, hrest⟩ := hagree hread hread' hcomma
      cases hrest
      exact absurd (hitem hstop') hmore.starts
    | more hread' hmore' =>
      obtain ⟨rfl, hrest⟩ := hagree hread hread' hcomma
      cases hrest
      obtain ⟨rfl, rfl, rfl⟩ := ih hstop hmore'
      exact ⟨rfl, rfl, rfl⟩

end Items

/-! ### Rows in parentheses -/

theorem Extends.refl (field : List Char → Option Expr) : Extends field field := fun _ _ h => h

theorem readNested_mono {field field' : List Char → Option Expr} (hfield : Extends field field')
    {d d' : Nat} (hd : d ≤ d') {goal : Goal} (hgoal : goal.isRow = false) {tokens rest : List Token}
    {e : Expr} (h : readNested field d goal tokens = some (e, rest)) :
    readNested field' d' goal tokens = some (e, rest) := by
  rw [← List.append_nil tokens] at h
  obtain ⟨left, hleft, h'⟩ := carries_readNested .none hfield hd goal h
    fun hloose => nomatch hgoal.symm.trans hloose
  rw [List.append_nil] at hleft h'
  rw [h', hleft, List.append_nil]

/-- One of the expressions of a row, which may be spread. -/
def rowItem (self : Goal → Reader Expr) : Reader Expr := do
  if ← acceptSign "*" then return .star (← self .bitwise) else self .expression

theorem eq_of_startsAssignment {b : Bool} {tokens rest : List Token}
    (h : startsAssignment tokens = some (b, rest)) : rest = tokens := by
  obtain ⟨isNext, left, hnext, h⟩ := bind_eq_some.1 h
  cases hnext
  split at h <;> cases h <;> rfl

theorem EndsItem.startsClause {tokens : List Token} (h : EndsItem tokens) :
    startsClause tokens = some (false, tokens) := by
  have hnot : ∀ t ∈ tokens.head?, t.isWord "for" = false ∧ t.isWord "async" = false := by
    rintro t ht
    rcases h with hhead | hstop
    · cases hhead.symm.trans ht
      exact ⟨rfl, rfl⟩
    · exact ⟨isWord_of_stops (by decide) t (hstop t ht), isWord_of_stops (by decide) t (hstop t ht)⟩
  cases tokens with
  | nil => rfl
  | cons t tokens =>
    obtain ⟨hfor, hasync⟩ := hnot t rfl
    have hread : ∀ (test : Token → Bool) (k : Bool → Reader Bool),
        (next test >>= k) (t :: tokens) = k (test t) (t :: tokens) := fun _ _ => rfl
    rw [Code.startsClause, hread, hfor, if_neg Bool.false_ne_true, hread, hasync,
      if_neg Bool.false_ne_true]
    rfl

theorem startsAssignment_eq_true {tokens rest : List Token}
    (h : startsAssignment tokens = some (true, rest)) :
    ∃ n more, tokens = .name n :: .sign ":=" :: more := by
  match tokens with
  | [] => cases h
  | [t] => cases t <;> cases h
  | t :: t' :: more =>
    cases t with
    | name n =>
      have hsecond : startsAssignment (.name n :: t' :: more) =
          some (t'.isSign ":=", .name n :: t' :: more) := rfl
      rw [hsecond] at h
      cases hsign : t'.isSign ":=" with
      | true => exact ⟨n, more, by rw [isSign_iff.1 hsign]⟩
      | false => rw [hsign] at h; cases h
    | _ => cases h

section Parentheses

variable {field : List Char → Option Expr} {d : Nat} {tokens rest : List Token}

theorem needsItem_rowItem : NeedsItem (rowItem (readNested field d)) :=
  .sign (by decide) (needsItem_readNested field d .expression)

theorem rowItem_agree {a a' : Expr} {middle middle' : List Token}
    (h : rowItem (readNested field (d + 1)) tokens = some (a, middle))
    (h' : readNested field (d + 1) .item tokens = some (a', middle')) (hends : EndsItem middle) :
    a' = a ∧ middle' = middle := by
  obtain ⟨b, left, haccept, h⟩ := bind_eq_some.1 h
  obtain ⟨b', left', haccept', h'⟩ := bind_eq_some.1 h'
  cases haccept.symm.trans haccept'
  cases b with
  | true =>
    obtain ⟨e, middle₁, he, hpure⟩ := bind_eq_some.1 h
    obtain ⟨e', middle₂, he', hpure'⟩ := bind_eq_some.1 h'
    have := readNested_mono (.refl field) (Nat.le_succ d) rfl he'
    cases he.symm.trans this
    cases hpure
    cases hpure'
    exact ⟨rfl, rfl⟩
  | false =>
    obtain ⟨starts, middle₁, hstarts, h''⟩ := bind_eq_some.1 h'
    obtain rfl := eq_of_startsAssignment hstarts
    cases starts with
    | true =>
      obtain ⟨n, more, rfl⟩ := startsAssignment_eq_true hstarts
      obtain ⟨k, hread, hhalt⟩ := @startsWith_expression (.name n) (pure (.name n))
        (readNested field d) field (fun _ => rfl) (fun _ _ => rfl) rfl
      have hname : expression (readNested field d) field (.name n :: .sign ":=" :: more) =
          some (.name n, .sign ":=" :: more) := by
        rw [hread, pure_bind, hhalt _ _ (.assignment more)]
      cases h.symm.trans hname
      rcases hends with hhead | hstop
      · cases isSign_iff.2 (Option.some.inj hhead)
      · cases hstop _ rfl
    | false =>
      cases h.symm.trans h''
      exact ⟨rfl, rfl⟩

theorem not_rowItem_yield (more : List Token) :
    rowItem (readNested field (d + 1)) (.word "yield" :: more) = none := by
  obtain ⟨k, hread, -⟩ := @startsWith_expression (.word "yield") failure (readNested field d) field
    (fun _ => rfl) (by decide) rfl
  have haccept : acceptSign "*" (.word "yield" :: more) = some (false, .word "yield" :: more) := rfl
  rw [rowItem, bind_of_eq_some haccept]
  exact (hread more).trans rfl

theorem ReadsItems.first {α : Type} {item : Reader α} {items : List α} {comma : Bool}
    (h : ReadsItems item tokens items comma rest) (hstop : RowStops rest) :
    ∃ a middle, item tokens = some (a, middle) ∧ EndsItem middle := by
  cases h with
  | last hread _ => exact ⟨_, _, hread, .inr hstop⟩
  | trailing hread _ => exact ⟨_, _, hread, .inl rfl⟩
  | more hread _ => exact ⟨_, _, hread, .inl rfl⟩

theorem eq_of_close {e u : Expr} {after : List Token}
    (h : (do sign ")"; return e : Reader Expr) tokens = some (u, after)) :
    tokens = .sign ")" :: after ∧ u = e := by
  obtain ⟨_, left, hsign, hpure⟩ := bind_eq_some.1 h
  obtain rfl := eq_of_sign hsign
  cases hpure
  exact ⟨rfl, rfl⟩

/-- What stands between parentheses whose first item ends there: the item, or the item and more of
them behind a comma. -/
theorem cases_of_parenthesized {self : Goal → Reader Expr} {u : Expr} {after : List Token}
    (hends : ∀ ⦃a middle⦄, self .item tokens = some (a, middle) → EndsItem middle)
    (hclose : tokens.head? ≠ some (.sign ")")) (hyield : tokens.head? ≠ some (.word "yield"))
    (h : parenthesized self tokens = some (u, after)) :
    ∃ a middle, self .item tokens = some (a, middle) ∧
      ((middle = .sign ")" :: after ∧ u = a) ∨
        (middle = .sign "," :: .sign ")" :: after ∧ u = .tuple [a]) ∨
        ∃ more items comma, middle = .sign "," :: more ∧
          ReadsItems (self .item) more items comma (.sign ")" :: after) ∧
          u = .tuple (a :: items)) := by
  have hparen : acceptSign ")" tokens = some (false, tokens) :=
    accept_of_not fun t ht => by
      rw [← Bool.not_eq_true, isSign_iff]
      rintro rfl
      exact hclose ht
  have hword : acceptWord "yield" tokens = some (false, tokens) :=
    accept_of_not fun t ht => by
      rw [← Bool.not_eq_true, isWord_iff]
      rintro rfl
      exact hyield ht
  rw [parenthesized, bind_of_eq_some hparen, if_neg Bool.false_ne_true, bind_of_eq_some hword,
    if_neg Bool.false_ne_true, bind_of_eq_some (next_apply _ tokens)] at h
  obtain ⟨a, middle, hitem, hmiddle⟩ := bind_eq_some.1 h
  refine ⟨a, middle, hitem, ?_⟩
  rw [bind_of_eq_some (hends hitem).startsClause, if_neg Bool.false_ne_true] at hmiddle
  obtain ⟨comma, rest, haccept, hrest⟩ := bind_eq_some.1 hmiddle
  obtain ⟨rfl, rfl⟩ | ⟨rfl, rfl, -⟩ := cases_of_acceptSign haccept
  · rw [if_pos rfl, bind_of_eq_some (next_apply _ rest)] at hrest
    split at hrest
    · obtain ⟨rfl, rfl⟩ := eq_of_close hrest
      exact .inr (.inl ⟨rfl, rfl⟩)
    · obtain ⟨⟨items, comma⟩, left, hitems, hleft⟩ := bind_eq_some.1 hrest
      obtain ⟨rfl, rfl⟩ := eq_of_close hleft
      exact .inr (.inr ⟨rest, items, comma, rfl, readsItems_of_commaItems hitems, rfl⟩)
  · rw [if_neg Bool.false_ne_true] at hrest
    split at hrest
    · cases hrest
    · exact .inl (eq_of_close hrest)

/-- A row that is read up to where no item starts is read between parentheses too, if that can be
read at all. -/
theorem parenthesized_row {v u : Expr} {after : List Token}
    (hrow : spreadRow (readNested field (d + 1)) tokens = some (v, rest)) (hstop : RowStops rest)
    (hparen : parenthesized (readNested field (d + 1)) tokens = some (u, after)) :
    u = v ∧ rest = .sign ")" :: after := by
  have hitem := needsItem_readNested field (d + 1) .item
  obtain ⟨⟨items, comma⟩, rest, hitems, hpure⟩ := bind_eq_some.1 hrow
  obtain ⟨rfl, rfl⟩ := pure_eq_some.1 hpure
  have hreads : ReadsItems (rowItem (readNested field (d + 1))) tokens items comma rest :=
    readsItems_of_commaItems hitems
  obtain ⟨a, middle, ha, hends⟩ := hreads.first hstop
  have hhead : ∀ t, rowItem (readNested field (d + 1)) (t :: tokens.tail) = none →
      tokens.head? ≠ some t := by
    intro t hnone hhead
    rw [List.eq_cons_of_mem_head? hhead, hnone] at ha
    cases ha
  obtain ⟨a', middle', ha', hcases⟩ := cases_of_parenthesized
    (fun a' middle' ha' => (rowItem_agree ha ha' hends).2 ▸ hends)
    (hhead _ (needsItem_rowItem (rowStops_cons rfl _))) (hhead _ (not_rowItem_yield _)) hparen
  obtain ⟨rfl, rfl⟩ := rowItem_agree ha ha' hends
  -- Both readings go on behind the same first item.
  cases hreads with
  | last hread hend =>
    cases ha.symm.trans hread
    obtain ⟨hrest, rfl⟩ | ⟨rfl, -⟩ | ⟨more, -, -, rfl, -⟩ := hcases
    · exact ⟨rfl, hrest⟩
    · exact absurd rfl hend
    · exact absurd rfl hend
  | trailing hread _ =>
    cases ha.symm.trans hread
    obtain ⟨hrest, -⟩ | ⟨hrest, rfl⟩ | ⟨more, items', comma', hrest, hreads', -⟩ := hcases
    · cases isSign_iff.2 (List.cons.inj hrest).1
    · exact ⟨rfl, (List.cons.inj hrest).2⟩
    · obtain ⟨-, rfl⟩ := List.cons.inj hrest
      exact absurd (hitem hstop) hreads'.starts
  | more hread hmore =>
    cases ha.symm.trans hread
    obtain ⟨hrest, -⟩ | ⟨hrest, -⟩ | ⟨more, items', comma', hrest, hreads', rfl⟩ := hcases
    · cases isSign_iff.2 (List.cons.inj hrest).1
    · obtain ⟨-, rfl⟩ := List.cons.inj hrest
      exact absurd (needsItem_rowItem (rowStops_cons rfl _)) hmore.starts
    · obtain ⟨-, rfl⟩ := List.cons.inj hrest
      obtain ⟨rfl, -, hrest⟩ := hmore.agree (fun _ _ _ _ _ h h' hends => rowItem_agree h h' hends)
        needsItem_rowItem hitem hstop hreads' (rowStops_cons rfl _)
      obtain ⟨b, bs, rfl⟩ := List.exists_cons_of_ne_nil hmore.ne_nil
      exact ⟨rfl, hrest.symm⟩

end Parentheses

/-! ### The statement -/

section Statement

variable (level : Goal → Reader Expr) (suite : Reader (List Stmt)) {tokens after : List Token}

/-- The definition that a block becomes. -/
theorem statements_define (tokens : List Token) :
    statements level suite (.word "def" :: .name "strlambda_fn" :: .sign "(" :: .sign "*" ::
        .name "args" :: .sign ")" :: .sign ":" :: tokens) =
      (suite >>= fun body =>
        pure [Stmt.define "strlambda_fn" [.mk "args" .variadic none] [] body]) tokens := by
  have hread : ∀ tokens, statements level suite (.word "def" :: tokens) =
      (do return [← defineRest level suite]) tokens := fun _ => rfl
  have hdefine : defineRest level suite (.name "strlambda_fn" :: .sign "(" :: .sign "*" ::
        .name "args" :: .sign ")" :: .sign ":" :: tokens) =
      (suite >>= fun body =>
        pure (Stmt.define "strlambda_fn" [.mk "args" .variadic none] [] body)) tokens := rfl
  rw [hread]
  change (defineRest level suite _).bind _ = _
  rw [hdefine]
  change ((suite tokens).bind _).bind _ = (suite tokens).bind _
  rw [Option.bind_assoc]
  rfl

theorem eq_of_isNewline {t : Token} (h : isNewline t = true) : t = .newline := by
  cases t <;> first | rfl | cases h

/-- A line that gives a row of expressions. -/
theorem row_of_smallStatements {out : List Stmt} (hopen : ∀ t ∈ tokens.head?, endsSmall t = false)
    (h : smallStatements level (.word "return" :: tokens) = some (out, after)) :
    ∃ v t rest, level .spreadRow tokens = some (v, t :: rest) ∧ endsSmall t = true ∧
      (t = .newline → out = [.give (some v)] ∧ after = rest) := by
  have hread : smallStatement level (.word "return" :: tokens) =
      (do
        if ← next endsSmall then return .give none
        else return .give (some (← level .spreadRow)) : Reader Stmt) tokens := rfl
  have hnext : (tokens.head?.map endsSmall).getD false = false := by
    cases tokens with
    | nil => rfl
    | cons t tokens => exact hopen t rfl
  obtain ⟨first, rest, hfirst, hmore⟩ := bind_eq_some.1 h
  rw [hread, bind_of_eq_some (next_apply _ _), hnext, if_neg Bool.false_ne_true] at hfirst
  obtain ⟨v, rest', hrow, hpure⟩ := bind_eq_some.1 hfirst
  obtain ⟨rfl, rfl⟩ := pure_eq_some.1 hpure
  obtain ⟨out', left, hiterate, hend⟩ := bind_eq_some.1 hmore
  obtain ⟨_, left', hnewline, hpure⟩ := bind_eq_some.1 hend
  obtain ⟨rfl, rfl⟩ := pure_eq_some.1 hpure
  obtain ⟨t, rfl, ht⟩ := eq_of_expect hnewline
  obtain rfl := eq_of_isNewline ht
  rw [iterate_apply] at hiterate
  obtain ⟨next, middle, hstep, hnext⟩ := bind_eq_some.1 hiterate
  obtain ⟨semicolon, middle', haccept, hsemicolon⟩ := bind_eq_some.1 hstep
  obtain ⟨rfl, rfl⟩ | ⟨rfl, rfl, -⟩ := cases_of_acceptSign haccept
  · exact ⟨v, .sign ";", middle', hrow, rfl, nofun⟩
  · cases hsemicolon
    cases hnext
    exact ⟨v, .newline, left', hrow, rfl, fun _ => ⟨rfl, rfl⟩⟩

theorem row_of_blockBody {out : List Stmt} (hopen : ∀ t ∈ tokens.head?, endsSmall t = false)
    (h : blockBody level suite (.newline :: .indent :: .word "return" :: tokens) =
      some (out, after)) :
    ∃ v t rest, level .spreadRow tokens = some (v, t :: rest) ∧ endsSmall t = true ∧
      (t :: rest = [.newline, .dedent] → out = [.give (some v)] ∧ after = []) := by
  have hread : blockBody level suite (.newline :: .indent :: .word "return" :: tokens) =
      (do
        let first ← smallStatements level
        let rest ← iterate (fun (out : List (List Stmt)) => do
          if ← accept isDedent then return none
          else return some ((← statements level suite) :: out)) [first]
        return rest.reverse.flatten : Reader (List Stmt)) (.word "return" :: tokens) := rfl
  rw [hread] at h
  obtain ⟨first, left, hfirst, hmore⟩ := bind_eq_some.1 h
  obtain ⟨v, t, rest, hrow, hends, hgive⟩ := row_of_smallStatements level hopen hfirst
  refine ⟨v, t, rest, hrow, hends, fun hrest => ?_⟩
  obtain ⟨rfl, rfl⟩ := List.cons.inj hrest
  obtain ⟨rfl, rfl⟩ := hgive rfl
  cases hmore
  exact ⟨rfl, rfl⟩

end Statement

/-- A module that defines a function with one line, which gives a row of expressions. -/
theorem row_of_readModule? {text : List Char} {tokens : List Token} {s : Stmt}
    (htokens : tokens? text = some (headTokens.reverse ++ tokens))
    (hopen : ∀ t ∈ tokens.head?, endsSmall t = false) (h : Stmt.readModule? text = some [s]) :
    ∃ v t rest,
      spreadRow (readNested (readField (text.length + 1)) (3 * tokens.length + 2)) tokens =
        some (v, t :: rest) ∧ endsSmall t = true ∧
      (t :: rest = [.newline, .dedent] →
        s = .define "strlambda_fn" [.mk "args" .variadic none] [] [.give (some v)]) := by
  obtain ⟨tokens', htokens', hread⟩ := Option.bind_eq_some_iff.1 h
  cases htokens.symm.trans htokens'
  dsimp only at hread
  split at hread
  · next out hall =>
    cases hread
    obtain ⟨outs, left, hiterate, hpure⟩ := bind_eq_some.1 hall
    obtain ⟨hout, rfl⟩ := pure_eq_some.1 hpure
    rw [iterate_apply] at hiterate
    obtain ⟨next, middle, hstep, hmore⟩ := bind_eq_some.1 hiterate
    obtain ⟨first, middle', hfirst, hpure⟩ := bind_eq_some.1
      (show (statements _ _ >>= fun first => pure (some [first])) _ = some (next, middle)
        from hstep)
    obtain ⟨rfl, rfl⟩ := pure_eq_some.1 hpure
    have hdefine := (statements_define _ _
      (.newline :: .indent :: .word "return" :: tokens)).symm.trans hfirst
    obtain ⟨body, after, hbody, hpure⟩ := bind_eq_some.1 hdefine
    obtain ⟨rfl, rfl⟩ := pure_eq_some.1 hpure
    obtain ⟨v, t, rest, hrow, hends, hgive⟩ := row_of_blockBody _ _ hopen hbody
    refine ⟨v, t, rest, hrow, hends, fun hrest => ?_⟩
    obtain ⟨rfl, rfl⟩ := hgive hrest
    cases hmore
    cases hout
    rfl
  · cases hread

/-- A text that starts with a parenthesis. -/
theorem row_of_read? {text : List Char} {tokens : List Token} {e : Expr}
    (htokens : tokens? text = some (.sign "(" :: tokens)) (h : Expr.read? text = some e) :
    ∃ u after,
      parenthesized (readNested (readField (text.length + 1)) (3 * (tokens.length + 1) + 2))
        tokens = some (u, after) ∧ (after = [.newline] → e = u) := by
  obtain ⟨tokens', htokens', hread⟩ := Option.bind_eq_some_iff.1 h
  cases htokens.symm.trans htokens'
  rw [readAll] at hread
  split at hread
  · next value rest hrow =>
    split at hread
    · cases hread
      obtain ⟨⟨items, comma⟩, rest, hitems, hpure⟩ := bind_eq_some.1 hrow
      obtain ⟨rfl, rfl⟩ := pure_eq_some.1 hpure
      obtain ⟨k, hfirst, hhalt⟩ := @startsWith_expression (.sign "(")
        (parenthesized (readNested (readField (text.length + 1)) (3 * (tokens.length + 1) + 2)))
        (readNested (readField (text.length + 1)) (3 * (tokens.length + 1) + 2))
        (readField (text.length + 1)) (fun _ => rfl) (fun _ _ => rfl) rfl
      have hread : ∀ {w after}, readLevel (readField (text.length + 1)) .expression
          (.sign "(" :: tokens) = some (w, after) → ∃ u after',
            parenthesized (readNested (readField (text.length + 1)) (3 * (tokens.length + 1) + 2))
              tokens = some (u, after') ∧
            (after' = [.newline] → w = u ∧ after = [.newline]) := by
        intro w after hw
        obtain ⟨u, after', hu, hk⟩ := bind_eq_some.1 ((hfirst tokens).symm.trans hw)
        refine ⟨u, after', hu, ?_⟩
        rintro rfl
        cases (hhalt u _ (.newline [])).symm.trans hk
        exact ⟨rfl, rfl⟩
      cases readsItems_of_commaItems hitems with
      | last hw hend =>
        obtain ⟨u, after, hu, hsame⟩ := hread hw
        exact ⟨u, after, hu, fun hafter => (hsame hafter).1⟩
      | trailing hw hnone =>
        obtain ⟨u, after, hu, hsame⟩ := hread hw
        exact ⟨u, after, hu, fun hafter => absurd (hsame hafter).2 (by simp)⟩
      | more hw hmore =>
        obtain ⟨u, after, hu, hsame⟩ := hread hw
        exact ⟨u, after, hu, fun hafter => absurd (hsame hafter).2 (by simp)⟩
    · cases hread
  · cases hread

/-! ### The same row in both places -/

theorem stopsRow_of_endsSmall {t : Token} (h : endsSmall t = true) : stopsRow t = true := by
  cases t with
  | newline => rfl
  | sign x =>
    rw [endsSmall, beq_iff_eq] at h
    subst h
    rfl
  | _ => cases h

/-- A row that is read in a block and between parentheses is read as the same expression. -/
theorem same_row {nb ne db de : Nat} {row rest after : List Token} {t : Token} {v u : Expr}
    (hrow : spreadRow (readNested (readField nb) db) (row ++ [.newline, .dedent]) =
      some (v, t :: rest)) (hends : endsSmall t = true)
    (hparen : parenthesized (readNested (readField ne) de) (row ++ [.sign ")", .newline]) =
      some (u, after)) :
    u = v ∧ after = [.newline] ∧ t :: rest = [.newline, .dedent] := by
  let field := readField (max nb ne)
  let depth := max db de + 1
  have hb : Extends (readField nb) field := .readField (Nat.le_max_left nb ne)
  have he : Extends (readField ne) field := .readField (Nat.le_max_right nb ne)
  have hdb : db ≤ depth := Nat.le_succ_of_le (Nat.le_max_left db de)
  have hde : de ≤ depth := Nat.le_succ_of_le (Nat.le_max_right db de)
  have hstop : RowStops (t :: rest) := rowStops_cons (stopsRow_of_endsSmall hends) rest
  obtain ⟨left, hleft, hrow'⟩ := carries_spreadRow .close (carries_readNested .close hb hdb)
    (needsItem_readNested field depth) hrow fun _ => hstop
  rw [← List.append_nil (row ++ _)] at hparen
  obtain ⟨after', hafter, hparen'⟩ := carries_parenthesized .none
    (carries_readNested .none he hde) (needsItem_readNested _ de) (needsItem_readNested field depth)
    hparen nofun
  rw [List.append_nil] at hafter hparen'
  subst hafter
  rw [List.append_nil] at hparen'
  rw [hleft] at hstop
  obtain ⟨rfl, hrest⟩ := parenthesized_row hrow' (hstop.other .close) hparen'
  cases left with
  | nil =>
    cases hrest
    exact ⟨rfl, rfl, hleft⟩
  | cons t' left =>
    obtain ⟨rfl, -⟩ := List.cons.inj hrest
    obtain ⟨rfl, -⟩ := List.cons.inj hleft
    cases hends

/-- Nothing is read between parentheses where no item starts, unless they close. -/
theorem parenthesized_of_stops {self : Goal → Reader Expr} (hitem : NeedsItem (self .item))
    {t : Token} (hends : endsSmall t = true) (tokens : List Token) :
    parenthesized self (t :: tokens) = none := by
  have hstop := rowStops_cons (stopsRow_of_endsSmall hends) tokens
  have hparen : acceptSign ")" (t :: tokens) = some (false, t :: tokens) :=
    accept_of_not fun t' ht' => by
      cases ht'
      cases t with
      | sign x =>
        rw [endsSmall, beq_iff_eq] at hends
        subst hends
        rfl
      | _ => rfl
  rw [parenthesized, bind_of_eq_some hparen, if_neg Bool.false_ne_true]
  refine NeedsItem.word (by decide) ?_ hstop
  exact .next (isSign_of_stops (by decide)) (hitem.bind _)

theorem exists_tokens_of_readModule? {text : List Char} {out : List Stmt}
    (h : Stmt.readModule? text = some out) : ∃ tokens, tokens? text = some tokens := by
  obtain ⟨tokens, htokens, -⟩ := Option.bind_eq_some_iff.1 h
  exact ⟨tokens, htokens⟩

theorem exists_tokens_of_read? {text : List Char} {e : Expr} (h : Expr.read? text = some e) :
    ∃ tokens, tokens? text = some tokens := by
  obtain ⟨tokens, htokens, -⟩ := Option.bind_eq_some_iff.1 h
  exact ⟨tokens, htokens⟩

/-- A block that gives the row of a text gives what is read from the text as a body, if its line
breaks are enclosed and stand outside of quoted texts. -/
theorem define_of_return {text : String} {tokens : List Token} {e : Expr} {s : Stmt}
    (henclosed : BreaksEnclosed text.toList) (hne : trim text.toList ≠ [])
    (htokens : tokens? (bodyText text) = some tokens)
    (hown : tokens ≠ [.sign "(", .sign ")", .newline])
    (hquoted : ∀ t ∈ tokens, t.holdsBreak = false) (he : Expr.read? (bodyText text) = some e)
    (hs : Stmt.readModule? (blockDefinition ("return " ++ text)) = some [s]) :
    s = .define "strlambda_fn" [.mk "args" .variadic none] [] [.give (some e)] := by
  obtain ⟨tokens', htokens'⟩ := exists_tokens_of_readModule? hs
  obtain ⟨row, row', hrows, rfl, rfl⟩ := rows_alike henclosed hne htokens htokens'
  obtain rfl : row = row' := ((rows_eq_iff hrows).2 fun t ht => hquoted t (by simp [ht])).symm
  rw [List.cons_append] at htokens
  rw [List.append_assoc] at htokens'
  obtain ⟨u, after, hparen, hu⟩ := row_of_read? htokens he
  have hopen : ∀ t ∈ (row ++ [Token.newline, .dedent]).head?, endsSmall t = false := by
    intro t ht
    cases row with
    | nil => exact absurd rfl hown
    | cons t' row =>
      cases ht
      rw [← Bool.not_eq_true]
      intro hends
      rw [List.cons_append, parenthesized_of_stops (needsItem_readNested _ _ .item) hends] at hparen
      cases hparen
  obtain ⟨v, t, rest, hrow, hends, hgive⟩ := row_of_readModule? htokens' hopen hs
  obtain ⟨rfl, hafter, hrest⟩ := same_row hrow hends hparen
  rw [hu hafter, hgive hrest]

end LambdaText.Code
