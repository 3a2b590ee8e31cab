import LambdaText.Proofs.Code.Grammar

/-!
# Levels of the grammar with other tokens behind

What stands at a level of the grammar carries over from one ending of the tokens to another one, and
to a greater bound on the nesting.
-/

namespace LambdaText.Code

open Reader

/-! ### Quoted texts -/

/-- Whether a reader of fields gives all that another one gives. -/
def Extends (field field' : List Char → Option Expr) : Prop :=
  ∀ ⦃source e⦄, field source = some e → field' source = some e

variable {field field' : List Char → Option Expr}

mutual

theorem Extends.piece (h : Extends field field') {p : RawPiece} {out : List Piece}
    (hread : readPiece field p = some out) : readPiece field' p = some out := by
  cases p with
  | text s => exact hread
  | field source shown conversion format =>
    simp only [readPiece, Option.bind_eq_bind, Option.bind_eq_some_iff] at hread ⊢
    obtain ⟨value, hvalue, spec, hspec, hout⟩ := hread
    exact ⟨value, h hvalue, spec, h.format hspec, hout⟩

theorem Extends.format (h : Extends field field') {format : Option (List RawPiece)}
    {out : List Piece} (hread : readFormat field format = some out) :
    readFormat field' format = some out := by
  cases format with
  | none => exact hread
  | some pieces => exact h.pieces hread

theorem Extends.pieces (h : Extends field field') {pieces : List RawPiece} {out : List Piece}
    (hread : readPieces field pieces = some out) : readPieces field' pieces = some out := by
  cases pieces with
  | nil => exact hread
  | cons p rest =>
    simp only [readPieces, Option.bind_eq_bind, Option.bind_eq_some_iff] at hread ⊢
    obtain ⟨head, hhead, tail, htail, hout⟩ := hread
    exact ⟨head, h.piece hhead, tail, h.pieces htail, hout⟩

end

theorem Extends.quotedPart (h : Extends field field') {mark body : List Char}
    {part : List UInt8 ⊕ List Piece} (hread : quotedPart field mark body = some part) :
    Code.quotedPart field' mark body = some part := by
  unfold Code.quotedPart at hread ⊢
  dsimp only at hread ⊢
  split at hread
  · next hbytes => rwa [if_pos hbytes]
  · next hbytes =>
    rw [if_neg hbytes]
    split at hread
    · next htemplate =>
      rw [if_pos htemplate]
      simp only [Option.bind_eq_bind, Option.bind_eq_some_iff, Option.map_eq_some_iff] at hread ⊢
      obtain ⟨pieces, hpieces, out, hout, hpart⟩ := hread
      exact ⟨pieces, hpieces, out, h.pieces hout, hpart⟩
    · next htemplate => rwa [if_neg htemplate]

section Carries

variable {s s' : List Token} (hs : Endings s s')
include hs

theorem carries_quotedStep (hfield : Extends field field')
    (state : List (List UInt8 ⊕ List Piece) × Bool) : Carries s s' tight
      (do
        match ← peek? with
        | some (.quoted mark body) =>
          skip
          match quotedPart field mark body with
          | some part => return some (part :: state.1, state.2 || mark.contains 'f')
          | none => failure
        | _ => return none)
      (do
        match ← peek? with
        | some (.quoted mark body) =>
          skip
          match quotedPart field' mark body with
          | some part => return some (part :: state.1, state.2 || mark.contains 'f')
          | none => failure
        | _ => return none) := by
  refine carries_peek hs (carries_pure _) rfl rfl fun t front v rest h hstop => ?_
  cases t with
  | quoted mark body =>
    dsimp only at h ⊢
    cases hpart : quotedPart field mark body with
    | none =>
      rw [hpart] at h
      cases h
    | some part =>
      rw [hpart] at h
      rw [hfield.quotedPart hpart]
      exact carries_skip (carries_pure _) _ h hstop
  | _ => exact @carries_pure _ s s' tight none (_ :: front) v rest h hstop

theorem carries_quotedRow (hfield : Extends field field') :
    Carries s s' tight (quotedRow field) (quotedRow field') := by
  refine (carries_iterate hs (carries_quotedStep hs hfield) _).bind fun state => ?_
  dsimp only
  split
  · exact carries_pure _
  · exact carries_failure _

section Nested

variable {self self' : Goal → Reader Expr}
  (hself : ∀ goal, Carries s s' (fun _ => goal.isRow) (self goal) (self' goal))
  (hneeds : ∀ goal, NeedsItem (self goal)) (hneeds' : ∀ goal, NeedsItem (self' goal))
include hself hneeds hneeds'

/-! ### Atoms -/

theorem carries_listDisplay : Carries s s' tight (listDisplay self) (listDisplay self') :=
  (carries_acceptSign hs (by decide)).bind fun _ => carries_ite (carries_pure _) <|
    (carries_nextSign hs (by decide)).bind fun spread => (hself .item).bind fun first =>
      carries_displayRest hs hself hneeds hneeds' (.inl rfl) .list Expr.list first spread

omit hneeds hneeds' in
theorem carries_entry : Carries s s' tight (entry self) (entry self') := by
  refine (carries_acceptSign hs (by decide)).bind fun _ => carries_ite ?_ ?_
  · exact (hself .bitwise).bind fun e => carries_pure _
  · exact (hself .expression).bind fun key => (carries_sign hs ":").bind fun _ =>
      (hself .expression).bind fun value => carries_pure _

omit hs hself hneeds' in
theorem needsItem_entry : NeedsItem (entry self) :=
  .sign (by decide) ((hneeds .expression).bind _)

theorem carries_dictRest (first : Entry) :
    Carries s s' tight (dictRest self first) (dictRest self' first) := by
  have hend : ∀ entries, Carries s s' tight
      (do sign "\x7d"; return Expr.dict (first :: entries))
      (do sign "\x7d"; return Expr.dict (first :: entries)) := fun entries =>
    (carries_sign hs "\x7d").bind fun _ => carries_pure _
  refine (carries_acceptSign hs (by decide)).bind fun _ => carries_ite ?_ (hend [])
  exact carries_moreItems hs (carries_entry hs hself) (needsItem_entry hneeds)
    (needsItem_entry hneeds') "\x7d" (fun entries => .expect (isSign_closing (.inr (.inr rfl))) _)
    hend

theorem carries_braceDisplay : Carries s s' tight (braceDisplay self) (braceDisplay self') := by
  have hrest := carries_dictRest hs hself hneeds hneeds'
  refine (carries_acceptSign hs (by decide)).bind fun _ => carries_ite (carries_pure _) ?_
  refine (carries_nextSign hs (by decide)).bind fun _ => carries_ite ?_ ?_
  · exact (carries_entry hs hself).bind fun first => hrest first
  · refine (carries_nextSign hs (by decide)).bind fun spread =>
      (carries_startsAssignment hs).bind fun assigned => (hself .item).bind fun first => ?_
    refine (carries_acceptSign hs (by decide)).bind fun _ => carries_ite ?_ ?_
    · refine (hself .expression).bind fun value => (carries_startsClause hs).bind fun _ =>
        carries_ite ?_ (hrest _)
      exact (carries_clauses hs hself).bind fun cs => (carries_sign hs "\x7d").bind fun _ =>
        carries_pure _
    · exact carries_displayRest hs hself hneeds hneeds' (.inr rfl) .set Expr.set first spread

theorem carries_atom (hfield : Extends field field') :
    Carries s s' tight (atom self field) (atom self' field') := by
  have hconstant : ∀ e : Expr, Carries s s' tight (pure e) (pure e) := carries_pure
  refine carries_peek hs (carries_failure _) rfl rfl fun t front v rest h hstop => ?_
  obtain ⟨o, ho⟩ : ∃ o, o = some t := ⟨_, rfl⟩
  rw [← ho] at h
  split at h <;> cases ho
  · exact carries_skip (hconstant _) _ h hstop
  · exact carries_skip (hconstant _) _ h hstop
  · exact @carries_quotedRow _ _ s s' hs hfield (.quoted _ _ :: front) v rest h hstop
  · exact carries_skip (hconstant _) _ h hstop
  · exact carries_skip (hconstant _) _ h hstop
  · exact carries_skip (hconstant _) _ h hstop
  · exact carries_skip (hconstant _) _ h hstop
  · exact carries_skip (carries_parenthesized hs hself hneeds hneeds') _ h hstop
  · exact carries_skip (carries_listDisplay hs hself hneeds hneeds') _ h hstop
  · exact carries_skip (carries_braceDisplay hs hself hneeds hneeds') _ h hstop
  · cases h

/-! ### Calls and indices -/

omit hneeds hneeds' in
theorem carries_argument (phase : ArgumentPhase) :
    Carries s s' tight (argument self phase) (argument self' phase) := by
  refine (carries_acceptSign hs (by decide)).bind fun _ => carries_ite ?_ ?_
  · exact (hself .expression).bind fun e => carries_pure _
  refine (carries_acceptSign hs (by decide)).bind fun _ => carries_ite
    (carries_ite (carries_failure _) ?_) ?_
  · exact (hself .expression).bind fun e => carries_pure _
  refine (carries_next hs .name).bind fun _ => (carries_second hs (.sign (by decide))).bind fun _ =>
    carries_ite ?_ (carries_ite (carries_failure _) ?_)
  · exact (carries_name hs).bind fun n => (carries_sign hs "=").bind fun _ =>
      (hself .expression).bind fun e => carries_pure _
  · exact (hself .named).bind fun e => carries_pure _

omit hs hself hneeds' in
theorem needsItem_argument (phase : ArgumentPhase) : NeedsItem (argument self phase) := by
  refine .sign (by decide) (.sign (by decide) (.next isName_of_stops (.second _ fun b => ?_)))
  simp only [Bool.false_and, Bool.false_eq_true, if_false]
  split
  · exact .failure
  · exact (hneeds .named).bind _

omit hneeds' in
theorem carries_arguments : Carries s s' tight (arguments self) (arguments self') := by
  have hargument := carries_argument hs hself
  refine carries_accept_paren hs (carries_pure _) ?_ ((needsItem_argument hneeds _).bind _)
  refine (hargument _).bind fun first => (carries_startsClause hs).bind fun starts => ?_
  dsimp only
  split
  · exact (carries_clauses hs hself).bind fun cs => (carries_sign hs ")").bind fun _ =>
      carries_pure _
  · refine (carries_iterate hs (fun state => ?_) _).bind fun state =>
      (carries_sign hs ")").bind fun _ => carries_pure _
    refine (carries_acceptSign hs (by decide)).bind fun _ => carries_ite ?_ (carries_pure _)
    exact carries_next_paren hs (carries_pure _) ((hargument _).bind fun _ => carries_pure _)
      ((needsItem_argument hneeds _).bind _)

omit hneeds hneeds' in
theorem carries_sliceBound : Carries s s' tight (sliceBound self) (sliceBound self') := by
  refine (carries_nextSign hs (by decide)).bind fun _ => (carries_nextSign hs (by decide)).bind
    fun _ => (carries_nextSign hs (by decide)).bind fun _ => carries_ite (carries_pure _) ?_
  exact (hself .expression).bind fun e => carries_pure _

omit hneeds hneeds' in
theorem carries_indexRest (first : Option Expr) : Carries s s' tight
    (do
      match first, ← acceptSign ":" with
      | some e, false => return e
      | _, _ =>
        let last ← sliceBound self
        let step ← if ← acceptSign ":" then sliceBound self else pure none
        return .slice first last step)
    (do
      match first, ← acceptSign ":" with
      | some e, false => return e
      | _, _ =>
        let last ← sliceBound self'
        let step ← if ← acceptSign ":" then sliceBound self' else pure none
        return .slice first last step) := by
  have hbound := carries_sliceBound hs hself
  refine (carries_acceptSign hs (by decide)).bind fun colon => ?_
  split
  · exact carries_pure _
  · refine hbound.bind fun last => (carries_acceptSign hs (by decide)).bind fun _ =>
      carries_ite ?_ (carries_pure _)
    exact hbound.bind fun step => carries_pure _

omit hneeds hneeds' in
theorem carries_indexItem : Carries s s' tight (indexItem self) (indexItem self') := by
  have hrest := carries_indexRest hs hself
  refine (carries_acceptSign hs (by decide)).bind fun _ => carries_ite ?_ ?_
  · exact (hself .expression).bind fun e => carries_pure _
  refine (carries_startsAssignment hs).bind fun _ => carries_ite (hself .named) ?_
  refine (carries_nextSign hs (by decide)).bind fun _ => carries_ite (hrest none) ?_
  refine Carries.bind ?_ hrest
  rw [map_eq_pure_bind, map_eq_pure_bind]
  exact (hself .expression).bind fun e => carries_pure _

omit hs hself hneeds' in
theorem needsItem_indexItem : NeedsItem (indexItem self) := by
  have hfirst : NeedsItem (some <$> self .expression) := by
    rw [map_eq_pure_bind]
    exact (hneeds .expression).bind _
  refine .sign (by decide) (needsItem_startsAssignment (.next (isSign_of_stops (by decide)) ?_))
  simp only [Bool.false_eq_true, if_false]
  exact hfirst.bind _

omit hneeds in
theorem carries_indices : Carries s s' tight (indices self) (indices self') := by
  have hitems := carries_commaItems hs (carries_indexItem hs hself) (needsItem_indexItem hneeds')
  refine hitems.bind_loose (fun items => .expect (isSign_closing (.inr (.inl rfl))) _) fun items =>
    (carries_sign hs "]").bind fun _ => ?_
  split <;> exact carries_pure _

theorem carries_primary (hfield : Extends field field') :
    Carries s s' tight (primary self field) (primary self' field') := by
  refine (carries_atom hs hself hneeds hneeds' hfield).bind fun first =>
    carries_iterate hs (fun e => ?_) first
  refine (carries_acceptSign hs (by decide)).bind fun _ => carries_ite ?_ ?_
  · exact (carries_name hs).bind fun n => carries_pure _
  refine (carries_acceptSign hs (by decide)).bind fun _ => carries_ite ?_ ?_
  · exact (carries_arguments hs hself hneeds).bind fun n => carries_pure _
  refine (carries_acceptSign hs (by decide)).bind fun _ => carries_ite ?_ (carries_pure _)
  exact (carries_indices hs hself hneeds').bind fun n => carries_pure _

/-! ### Operators -/

omit hself hneeds hneeds' in
theorem carries_choice {α β : Type} {loose : α → Bool} {meaning? : Token → Option β}
    (hnewline : meaning? .newline = none) (hparen : meaning? (.sign ")") = none)
    {k k' : β → Reader α} (hk : ∀ b, Carries s s' loose (k b) (k' b)) {r r' : Reader α}
    (hr : Carries s s' loose r r') :
    Carries s s' loose (choice meaning? k r) (choice meaning? k' r') := by
  refine carries_peek hs hr ?_ ?_ fun t front v rest h hstop => ?_
  · rw [Option.bind_some, hnewline]
    rfl
  · rw [Option.bind_some, hparen]
    rfl
  · rw [Option.bind_some] at h ⊢
    cases hmeaning : meaning? t with
    | some b =>
      rw [hmeaning] at h
      exact carries_skip (hk b) _ h hstop
    | none =>
      rw [hmeaning] at h
      exact @hr (t :: front) v rest h hstop

theorem carries_factor (hfield : Extends field field') :
    Carries s s' tight (factor self field) (factor self' field') := by
  rw [factor_eq, factor_eq]
  have hunary : ∀ op, Carries s s' tight (do return Expr.unary op (← self .factor))
      (do return Expr.unary op (← self' .factor)) := fun op =>
    (hself .factor).bind fun e => carries_pure _
  have hpower : Carries s s' tight (power self field) (power self' field') := by
    refine (carries_acceptWord hs "await").bind fun awaited =>
      (carries_primary hs hself hneeds hneeds' hfield).bind fun base =>
        (carries_acceptSign hs (by decide)).bind fun _ => carries_ite ?_ (carries_pure _)
    exact (hself .factor).bind fun e => carries_pure _
  exact carries_choice hs rfl rfl hunary hpower

omit hself hneeds hneeds' in
theorem carries_leftChain {operand operand' : Reader Expr} (h : Carries s s' tight operand operand')
    {level : List (String × BinaryOp)} (hlevel : levelSign? level (.sign ")") = none) :
    Carries s s' tight (leftChain operand (levelSign? level) Expr.binary)
      (leftChain operand' (levelSign? level) Expr.binary) :=
  h.bind fun first => carries_iterate hs (fun _ =>
    carries_choice hs rfl hlevel (fun _ => h.bind fun _ => carries_pure _) (carries_pure _)) first

omit hself hneeds hneeds' in
theorem carries_levels {levels : List (List (String × BinaryOp))} {operand operand' : Reader Expr}
    (h : Carries s s' tight operand operand')
    (hlevels : ∀ level ∈ levels, levelSign? level (.sign ")") = none) : Carries s s' tight
      (levels.foldr (fun level operand => leftChain operand (levelSign? level) Expr.binary) operand)
      (levels.foldr (fun level operand => leftChain operand (levelSign? level) Expr.binary)
        operand') := by
  induction levels with
  | nil => exact h
  | cons level levels ih =>
    rw [List.forall_mem_cons] at hlevels
    exact carries_leftChain hs (ih hlevels.2) hlevels.1

theorem carries_bitwise (hfield : Extends field field') :
    Carries s s' tight (bitwise self field) (bitwise self' field') :=
  carries_levels hs (carries_factor hs hself hneeds hneeds' hfield) (by decide)

theorem carries_comparison (hfield : Extends field field') :
    Carries s s' tight (comparison self field) (comparison self' field') := by
  have hbitwise := carries_bitwise hs hself hneeds hneeds' hfield
  refine hbitwise.bind fun first => (carries_iterate hs (fun out => ?_) []).bind fun rest =>
    carries_pure _
  refine (carries_comparisonOp hs).bind fun op => ?_
  cases op with
  | none => exact carries_pure _
  | some op => exact hbitwise.bind fun e => carries_pure _

theorem carries_inversion (hfield : Extends field field') :
    Carries s s' tight (inversion self field) (inversion self' field') := by
  refine (carries_acceptWord hs "not").bind fun _ => carries_ite ?_
    (carries_comparison hs hself hneeds hneeds' hfield)
  exact (hself .inversion).bind fun e => carries_pure _

omit hself hneeds hneeds' in
theorem carries_connected (w : String) (conjunction : Bool) {operand operand' : Reader Expr}
    (h : Carries s s' tight operand operand') :
    Carries s s' tight (connected w conjunction operand) (connected w conjunction operand') := by
  refine h.bind fun first => (carries_iterate hs (fun out => ?_) []).bind fun rest =>
    carries_pure _
  exact (carries_acceptWord hs w).bind fun _ => carries_ite (h.bind fun e => carries_pure _)
    (carries_pure _)

theorem carries_disjunction (hfield : Extends field field') :
    Carries s s' tight (disjunction self field) (disjunction self' field') :=
  carries_connected hs "or" false
    (carries_connected hs "and" true (carries_inversion hs hself hneeds hneeds' hfield))

omit hneeds hneeds' in
theorem carries_lambdaRest : Carries s s' tight (lambdaRest self) (lambdaRest self') := by
  refine (carries_parameters hs (carries_pure _) (hself .expression) (.sign (by decide))).bind
    fun ps => (carries_sign hs ":").bind fun _ => ?_
  exact (hself .expression).bind fun e => carries_pure _

theorem carries_expression (hfield : Extends field field') :
    Carries s s' tight (expression self field) (expression self' field') := by
  refine (carries_acceptWord hs "lambda").bind fun _ => carries_ite (carries_lambdaRest hs hself) ?_
  refine (carries_disjunction hs hself hneeds hneeds' hfield).bind fun value =>
    (carries_acceptWord hs "if").bind fun _ => carries_ite ?_ (carries_pure _)
  exact (hself .disjunction).bind fun test => (carries_word hs "else").bind fun _ =>
    (hself .expression).bind fun e => carries_pure _

theorem carries_named (hfield : Extends field field') :
    Carries s s' tight (named self field) (named self' field') := by
  refine (carries_startsAssignment hs).bind fun _ => carries_ite ?_
    (carries_expression hs hself hneeds hneeds' hfield)
  exact (carries_name hs).bind fun n => (carries_sign hs ":=").bind fun _ =>
    (hself .expression).bind fun e => carries_pure _

theorem carries_item (hfield : Extends field field') :
    Carries s s' tight (item self field) (item self' field') := by
  refine (carries_acceptSign hs (by decide)).bind fun _ => carries_ite ?_
    (carries_named hs hself hneeds hneeds' hfield)
  exact (hself .bitwise).bind fun e => carries_pure _

/-! ### Rows -/

omit hneeds in
theorem carries_spreadRow :
    Carries s s' (fun _ => true) (spreadRow self) (spreadRow self') := by
  refine (carries_commaItems hs ?_ ?_).bind_pure (l := true) _
  · exact (carries_acceptSign hs (by decide)).bind fun _ => carries_ite
      ((hself .bitwise).bind fun e => carries_pure _) (hself .expression)
  · exact .sign (by decide) (hneeds' .expression)

omit hneeds in
theorem carries_targets :
    Carries s s' (fun _ => true) (targets self) (targets self') := by
  have hone : Carries s s' tight
      (do if ← acceptSign "*" then return .star (← self .primary) else self .primary)
      (do if ← acceptSign "*" then return .star (← self' .primary) else self' .primary) :=
    (carries_acceptSign hs (by decide)).bind fun _ => carries_ite
      ((hself .primary).bind fun e => carries_pure _) (hself .primary)
  have hitems := carries_commaItems hs hone (.sign (by decide) (hneeds' .primary))
  intro front v rest h hstop
  obtain ⟨items, middle, hread, hv⟩ := bind_eq_some.1 h
  dsimp only at hv
  split at hv
  · next htarget =>
    obtain ⟨rfl, rfl⟩ := pure_eq_some.1 hv
    obtain ⟨left, rfl, hread'⟩ := hitems hread hstop
    exact ⟨left, rfl, bind_eq_some.2 ⟨items, _, hread', by simp [htarget, pure_eq_some]⟩⟩
  · cases hv

theorem carries_readGoal (hfield : Extends field field') (goal : Goal) :
    Carries s s' (fun _ => goal.isRow) (readGoal self field goal) (readGoal self' field' goal) := by
  cases goal with
  | spreadRow => exact carries_spreadRow hs hself hneeds'
  | targets => exact carries_targets hs hself hneeds'
  | item => exact carries_item hs hself hneeds hneeds' hfield
  | named => exact carries_named hs hself hneeds hneeds' hfield
  | expression => exact carries_expression hs hself hneeds hneeds' hfield
  | disjunction => exact carries_disjunction hs hself hneeds hneeds' hfield
  | inversion => exact carries_inversion hs hself hneeds hneeds' hfield
  | bitwise => exact carries_bitwise hs hself hneeds hneeds' hfield
  | factor => exact carries_factor hs hself hneeds hneeds' hfield
  | primary => exact carries_primary hs hself hneeds hneeds' hfield

end Nested

/-! ### The bound on the nesting -/

theorem carries_readNested (hfield : Extends field field') {d d' : Nat} (hd : d ≤ d')
    (goal : Goal) :
    Carries s s' (fun _ => goal.isRow) (readNested field d goal) (readNested field' d' goal) := by
  induction d generalizing d' goal with
  | zero => exact carries_failure _
  | succ d ih =>
    obtain ⟨k, rfl⟩ := Nat.exists_eq_add_of_le hd
    rw [Nat.succ_add]
    exact carries_readGoal hs (fun goal => ih (Nat.le_add_right d k) goal)
      (needsItem_readNested field d) (needsItem_readNested field' (d + k)) hfield goal

theorem carries_readLevel (hfield : Extends field field') (goal : Goal) :
    Carries s s' (fun _ => goal.isRow) (readLevel field goal) (readLevel field' goal) := by
  intro front v rest h hstop
  have hlength : (front ++ s).length = (front ++ s').length := by cases hs <;> simp
  have h' : readNested field (3 * (front ++ s).length + 3) goal (front ++ s) = some (v, rest) := h
  rw [hlength] at h'
  exact carries_readNested hs hfield (Nat.le_refl _) goal h' hstop

end Carries

theorem Extends.readField {d d' : Nat} (hd : d ≤ d') : Extends (readField d) (readField d') := by
  induction d generalizing d' with
  | zero => nofun
  | succ d ih =>
    obtain ⟨k, rfl⟩ := Nat.exists_eq_add_of_le hd
    rw [Nat.succ_add]
    intro source e h
    obtain ⟨tokens, htokens, hread⟩ := Option.bind_eq_some_iff.1 h
    refine Option.bind_eq_some_iff.2 ⟨tokens, htokens, ?_⟩
    rw [readAll] at hread ⊢
    split at hread
    · next value rest hvalue =>
      split at hread
      · next hrest =>
        have hstop : RowStops rest := by
          intro t ht
          have := List.all_eq_true.1 hrest t (List.mem_of_mem_head? ht)
          cases t <;> first | rfl | cases this
        rw [← List.append_nil tokens] at hvalue
        obtain ⟨left, hleft, hvalue'⟩ := carries_readLevel .none (ih (Nat.le_add_right d k))
          .spreadRow hvalue fun _ => hstop
        rw [List.append_nil] at hleft hvalue'
        rw [List.append_nil, ← hleft] at hvalue'
        rw [hvalue']
        exact (if_pos hrest).trans hread
      · cases hread
    · cases hread

end LambdaText.Code
