import LambdaText.Code.Expression
import LambdaText.Proofs.Code.Carrying

/-!
# Expressions with other tokens behind

The readers of all levels of the grammar carry over from one ending of the tokens to another one.
-/

namespace LambdaText.Code

open Reader

/-! ### Where no expression starts -/

theorem isSign_of_stops {x : String} (h : stopsRow (.sign x) = false) :
    ∀ t, stopsRow t = true → t.isSign x = false := by
  intro t ht
  cases t with
  | sign y =>
    rw [Token.isSign, beq_eq_false_iff_ne]
    rintro rfl
    rw [h] at ht
    cases ht
  | _ => rfl

theorem isWord_of_stops {w : String} (h : stopsRow (.word w) = false) :
    ∀ t, stopsRow t = true → t.isWord w = false := by
  intro t ht
  cases t with
  | word y =>
    rw [Token.isWord, beq_eq_false_iff_ne]
    rintro rfl
    rw [h] at ht
    cases ht
  | _ => rfl

theorem isName_of_stops : ∀ t, stopsRow t = true → isName t = false := by
  intro t ht
  cases t with
  | name n => cases ht
  | _ => rfl

section NeedsItem

variable {α β : Type}

theorem NeedsItem.sign {x : String} (h : stopsRow (.sign x) = false) {k : Bool → Reader α}
    (hk : NeedsItem (k false)) : NeedsItem (acceptSign x >>= k) :=
  .accept (isSign_of_stops h) hk

theorem NeedsItem.word {w : String} (h : stopsRow (.word w) = false) {k : Bool → Reader α}
    (hk : NeedsItem (k false)) : NeedsItem (acceptWord w >>= k) :=
  .accept (isWord_of_stops h) hk

theorem NeedsItem.second (test : Token → Bool) {k : Bool → Reader α}
    (hk : ∀ b, NeedsItem (k b)) : NeedsItem (Reader.second test >>= k) :=
  fun _ hstop => hk _ hstop

theorem needsItem_commaItems {item : Reader α} (h : NeedsItem item) :
    NeedsItem (commaItems item) := by
  rw [commaItems_eq]
  exact h.bind _

theorem needsItem_startsAssignment {k : Bool → Reader α} (hk : NeedsItem (k false)) :
    NeedsItem (startsAssignment >>= k) := by
  rw [startsAssignment, bind_assoc]
  exact .next isName_of_stops hk

variable {self : Goal → Reader Expr} (field : List Char → Option Expr)

theorem needsItem_atom : NeedsItem (atom self field) := by
  intro tokens hstop
  have hread : ∀ k : Option Token → Reader Expr, (peek? >>= k) tokens = k tokens.head? tokens :=
    fun _ => rfl
  rw [atom, hread]
  cases tokens with
  | nil => rfl
  | cons t tokens =>
    have ht : stopsRow t = true := hstop t rfl
    cases t with
    | sign x =>
      simp only [stopsRow, Bool.or_eq_true, beq_iff_eq] at ht
      rcases ht with ((rfl | rfl) | rfl) | rfl <;> rfl
    | word w =>
      simp only [stopsRow, beq_iff_eq] at ht
      subst ht
      rfl
    | newline => rfl
    | _ => cases ht

theorem needsItem_primary : NeedsItem (primary self field) := (needsItem_atom field).bind _

/-- The unary operator that a token stands for. -/
def unarySign? : Token → Option UnaryOp
  | .sign s => (unarySigns.find? fun pair => pair.1 == s).map Prod.snd
  | _ => none

/-- A power, which may be awaited. -/
def power (self : Goal → Reader Expr) (field : List Char → Option Expr) : Reader Expr := do
  let awaited ← acceptWord "await"
  let base ← primary self field
  let base := if awaited then Expr.await base else base
  if ← acceptSign "**" then return .binary .power base (← self .factor) else return base

/-- A choice by what the next token stands for. -/
def choice {α β : Type} (meaning? : Token → Option β) (k : β → Reader α) (r : Reader α) :
    Reader α := do
  match (← peek?).bind meaning? with
  | some b => skip; k b
  | none => r

theorem factor_eq : factor self field =
    choice unarySign? (fun op => do return .unary op (← self .factor)) (power self field) := by
  refine congrArg (peek? >>= ·) (funext fun o => ?_)
  rcases o with - | t
  · rfl
  · cases t with
    | sign s =>
      simp only [Option.bind_some, unarySign?]
      cases unarySigns.find? fun (pair : String × UnaryOp) => pair.1 == s <;> rfl
    | _ => rfl

theorem unarySign?_of_stops : ∀ t, stopsRow t = true → unarySign? t = none := by
  intro t ht
  cases t with
  | sign x =>
    simp only [stopsRow, Bool.or_eq_true, beq_iff_eq] at ht
    rcases ht with ((rfl | rfl) | rfl) | rfl <;> rfl
  | _ => rfl

theorem needsItem_factor : NeedsItem (factor self field) := by
  intro tokens hstop
  have hpower : NeedsItem (power self field) := .word (by decide) ((needsItem_primary field).bind _)
  have hread : ∀ k : Option Token → Reader Expr, (peek? >>= k) tokens = k tokens.head? tokens :=
    fun _ => rfl
  have hnone : tokens.head?.bind unarySign? = none := by
    cases tokens with
    | nil => rfl
    | cons t tokens => exact unarySign?_of_stops t (hstop t rfl)
  rw [factor_eq, choice, hread, hnone]
  exact hpower hstop

theorem needsItem_levels (levels : List (List (String × BinaryOp))) {operand : Reader Expr}
    (h : NeedsItem operand) : NeedsItem (levels.foldr (fun level operand =>
      leftChain operand (levelSign? level) Expr.binary) operand) := by
  induction levels with
  | nil => exact h
  | cons level levels ih => exact ih.bind _

theorem needsItem_bitwise : NeedsItem (bitwise self field) :=
  needsItem_levels _ (needsItem_factor field)

theorem needsItem_comparison : NeedsItem (comparison self field) := (needsItem_bitwise field).bind _

theorem needsItem_inversion : NeedsItem (inversion self field) :=
  .word (by decide) (needsItem_comparison field)

theorem needsItem_disjunction : NeedsItem (disjunction self field) :=
  ((needsItem_inversion field).bind _).bind _

theorem needsItem_expression : NeedsItem (expression self field) :=
  .word (by decide) ((needsItem_disjunction field).bind _)

theorem needsItem_named : NeedsItem (named self field) :=
  needsItem_startsAssignment (needsItem_expression field)

theorem needsItem_item : NeedsItem (item self field) :=
  .sign (by decide) (needsItem_named field)

theorem needsItem_readGoal (hself : ∀ goal, NeedsItem (self goal)) (goal : Goal) :
    NeedsItem (readGoal self field goal) := by
  cases goal with
  | spreadRow => exact (needsItem_commaItems (.sign (by decide) (hself .expression))).bind _
  | targets => exact (needsItem_commaItems (.sign (by decide) (hself .primary))).bind _
  | item => exact needsItem_item field
  | named => exact needsItem_named field
  | expression => exact needsItem_expression field
  | disjunction => exact needsItem_disjunction field
  | inversion => exact needsItem_inversion field
  | bitwise => exact needsItem_bitwise field
  | factor => exact needsItem_factor field
  | primary => exact needsItem_primary field

/-- No level reads anything where no expression starts. -/
theorem needsItem_readNested (depth : Nat) (goal : Goal) :
    NeedsItem (readNested field depth goal) := by
  induction depth generalizing goal with
  | zero => exact .failure
  | succ depth ih => exact needsItem_readGoal field ih goal

end NeedsItem

/-! ### Signs and words -/

/-- Whether what is read at a level may end with a comma. -/
def Goal.isRow : Goal → Bool
  | .spreadRow | .targets => true
  | _ => false

/-- What stands behind the next token when it is a word. -/
theorem comparisonOp?_cons (t : Token) (tokens : List Token) :
    comparisonOp? (t :: tokens) =
      (match some t with
      | some (.sign s) =>
        match comparisonSigns.find? fun entry => entry.1 == s with
        | some (_, op) => do skip; return some op
        | none => return none
      | some (.word "in") => do skip; return some .isIn
      | some (.word "not") => do
        if ← second (Token.isWord "in") then skip; skip; return some .notIn
        else return none
      | some (.word "is") => do
        skip
        if ← acceptWord "not" then return some .isNot else return some .is
      | _ => return none : Reader (Option CompareOp)) (t :: tokens) := rfl

theorem comparisonOp?_word (w : String) (tokens : List Token) :
    comparisonOp? (.word w :: tokens) = (
      if w = "in" then do skip; return some .isIn
      else if w = "not" then do
        if ← second (Token.isWord "in") then
          skip
          skip
          return some .notIn
        else return none
      else if w = "is" then do
        skip
        if ← acceptWord "not" then return some .isNot else return some .is
      else return none : Reader (Option CompareOp)) (.word w :: tokens) := by
  by_cases hin : w = "in"
  · subst hin
    rfl
  · by_cases hnot : w = "not"
    · subst hnot
      rfl
    · by_cases his : w = "is"
      · subst his
        rfl
      · rw [if_neg hin, if_neg hnot, if_neg his]
        obtain ⟨o, ho⟩ : ∃ o, o = some (Token.word w) := ⟨_, rfl⟩
        rw [comparisonOp?_cons, ← ho]
        split
        · cases ho
        · cases ho; exact absurd rfl hin
        · cases ho; exact absurd rfl hnot
        · cases ho; exact absurd rfl his
        · rfl

/-- The negated test of membership is two words, or the first one is left alone. -/
theorem comparisonOp?_not (t : Token) (tokens : List Token) :
    comparisonOp? (.word "not" :: t :: tokens) =
      if t.isWord "in" then some (some .notIn, tokens)
      else some (none, .word "not" :: t :: tokens) := by
  rw [comparisonOp?_word]
  change (if t.isWord "in" then _ else _ : Reader (Option CompareOp)) _ = _
  split <;> rfl

theorem isWord_in (t : Token) (h : t.isWord "in" = true) : stopsRow t = true := by
  cases t with
  | word w => exact h
  | _ => cases h

theorem isSign_closing {x : String} (hx : x = ")" ∨ x = "]" ∨ x = "\x7d") (t : Token)
    (h : t.isSign x = true) : stopsRow t = true := by
  cases t with
  | sign y =>
    rw [Token.isSign, beq_iff_eq] at h
    subst h
    rcases hx with rfl | rfl | rfl <;> rfl
  | _ => cases h

section Carries

variable {s s' : List Token} (hs : Endings s s')
include hs

theorem carries_acceptSign {x : String} (h : x ≠ ")") :
    Carries s s' tight (acceptSign x) (acceptSign x) :=
  carries_accept hs (.sign h)

theorem carries_acceptWord (w : String) : Carries s s' tight (acceptWord w) (acceptWord w) :=
  carries_accept hs (.word w)

theorem carries_sign (x : String) : Carries s s' tight (sign x) (sign x) := carries_expect hs rfl

theorem carries_word (w : String) : Carries s s' tight (word w) (word w) := carries_expect hs rfl

theorem carries_nextSign {x : String} (h : x ≠ ")") :
    Carries s s' tight (next (Token.isSign x)) (next (Token.isSign x)) :=
  carries_next hs (.sign h)

theorem carries_startsAssignment : Carries s s' tight startsAssignment startsAssignment :=
  (carries_next hs .name).bind fun _ =>
    carries_ite (carries_second hs (.sign (by decide))) (carries_pure _)

theorem carries_startsClause : Carries s s' tight startsClause startsClause :=
  (carries_next hs (.word "for")).bind fun _ => carries_ite (carries_pure _) <|
    (carries_next hs (.word "async")).bind fun _ =>
      carries_ite (carries_second hs (.word "for")) (carries_pure _)

omit hs in
/-- Taking the next token up. -/
theorem carries_skip {α : Type} {loose : α → Bool} {r r' : Reader α} (h : Carries s s' loose r r')
    (t : Token) {front : List Token} {v : α} {rest : List Token}
    (hread : (skip >>= fun _ => r) (t :: (front ++ s)) = some (v, rest))
    (hstop : loose v = true → RowStops rest) :
    ∃ left, rest = left ++ s ∧ (skip >>= fun _ => r') (t :: (front ++ s')) = some (v, left ++ s') :=
  h hread hstop

theorem carries_notIn {front rest : List Token} {v : Option CompareOp}
    (h : comparisonOp? (.word "not" :: (front ++ s)) = some (v, rest)) :
    ∃ left, rest = left ++ s ∧
      comparisonOp? (.word "not" :: (front ++ s')) = some (v, left ++ s') := by
  cases front with
  | nil =>
    have hstay : v = none ∧ rest = .word "not" :: s := by
      cases hs <;> cases h <;> exact ⟨rfl, rfl⟩
    obtain ⟨rfl, rfl⟩ := hstay
    exact ⟨[.word "not"], rfl, by cases hs <;> rfl⟩
  | cons t front =>
    rw [List.cons_append, comparisonOp?_not] at h
    rw [List.cons_append, comparisonOp?_not]
    split at h
    · next hin =>
      cases h
      exact ⟨front, rfl, if_pos hin⟩
    · next hin =>
      cases h
      exact ⟨.word "not" :: t :: front, rfl, if_neg hin⟩

theorem carries_comparisonOp : Carries s s' tight comparisonOp? comparisonOp? := by
  have hpure : ∀ op : Option CompareOp, Carries s s' tight (pure op) (pure op) := carries_pure
  refine carries_peek hs (carries_pure _) rfl rfl fun t front v rest h hstop => ?_
  cases t with
  | sign x =>
    dsimp only at h ⊢
    cases hfind : comparisonSigns.find? fun entry => entry.1 == x with
    | none =>
      rw [hfind] at h
      exact @hpure none (.sign x :: front) v rest h hstop
    | some found =>
      rw [hfind] at h
      exact carries_skip (hpure _) _ h hstop
  | word w =>
    change comparisonOp? (.word w :: (front ++ s)) = some (v, rest) at h
    change ∃ left, _ ∧ comparisonOp? (.word w :: (front ++ s')) = some (v, left ++ s')
    by_cases hnot : w = "not"
    · subst hnot
      exact carries_notIn hs h
    · rw [comparisonOp?_word, if_neg hnot] at h ⊢
      split at h
      · next hin =>
        rw [if_pos hin]
        exact carries_skip (hpure _) _ h hstop
      · next hin =>
        rw [if_neg hin]
        split at h
        · next his =>
          rw [if_pos his]
          have his : Carries s s' tight
              (do if ← acceptWord "not" then return some CompareOp.isNot else return some .is)
              (do if ← acceptWord "not" then return some CompareOp.isNot else return some .is) :=
            (carries_acceptWord hs "not").bind fun _ => carries_ite (hpure _) (hpure _)
          exact carries_skip his _ h hstop
        · next his =>
          rw [if_neg his]
          exact @hpure none (.word w :: front) v rest h hstop
  | _ => exact @hpure none (_ :: front) v rest h hstop

/-! ### Parameters -/

theorem carries_parameterStep {hint hint' : Reader (Option Expr)} {default default' : Reader Expr}
    (hhint : Carries s s' tight hint hint') (hdefault : Carries s s' tight default default')
    (state : ParameterState) :
    Carries s s' tight (parameterStep hint default state) (parameterStep hint' default' state) := by
  have hnamed : ∀ kind (f : ParameterState → ParameterState),
      Carries s s' tight
        (do
          let n ← name
          return f (state.add (.mk n kind none) (← hint)))
        (do
          let n ← name
          return f (state.add (.mk n kind none) (← hint'))) := fun kind f =>
    (carries_name hs).bind fun n => hhint.bind fun note => carries_pure _
  unfold parameterStep
  refine carries_ite (carries_failure _) ?_
  refine (carries_acceptSign hs (by decide)).bind fun _ => carries_ite
    (carries_ite (carries_failure _) (carries_pure _)) ?_
  refine (carries_acceptSign hs (by decide)).bind fun _ => carries_ite
    (carries_ite (carries_failure _)
      (hnamed .keywords fun state => { state with closed := true })) ?_
  refine (carries_acceptSign hs (by decide)).bind fun _ => carries_ite
    (carries_ite (carries_failure _) ?_) ?_
  · exact (carries_next hs .name).bind fun _ => carries_ite
      (hnamed .variadic fun state => { state with star := true }) (carries_pure _)
  · refine (carries_name hs).bind fun n => hhint.bind fun note => ?_
    refine (carries_acceptSign hs (by decide)).bind fun _ => carries_ite ?_ ?_
    · exact hdefault.bind fun d => carries_pure _
    · exact carries_ite (carries_pure _) (carries_failure _)

theorem carries_parameters {hint hint' : Reader (Option Expr)} {default default' : Reader Expr}
    (hhint : Carries s s' tight hint hint') (hdefault : Carries s s' tight default default')
    {closing : Token → Bool} (hclosing : OpenTest closing) :
    Carries s s' tight (parameters hint default closing) (parameters hint' default' closing) := by
  have hstep := carries_parameterStep hs hhint hdefault
  refine (carries_next hs hclosing).bind fun _ => carries_ite (carries_pure _) ?_
  refine (hstep _).bind fun first => (carries_iterate hs (fun state => ?_) first).bind fun last =>
    carries_ite (carries_failure _) (carries_pure _)
  refine (carries_acceptSign hs (by decide)).bind fun _ => carries_ite ?_ (carries_pure _)
  exact (carries_next hs hclosing).bind fun _ => carries_ite (carries_pure _)
    ((hstep state).bind fun next => carries_pure _)

/-! ### Displays and comprehensions -/

section Nested

variable {self self' : Goal → Reader Expr}
  (hself : ∀ goal, Carries s s' (fun _ => goal.isRow) (self goal) (self' goal))
  (hneeds : ∀ goal, NeedsItem (self goal)) (hneeds' : ∀ goal, NeedsItem (self' goal))
include hself

theorem carries_clauses : Carries s s' tight (clauses self) (clauses self') := by
  refine (carries_iterate hs (fun out => ?_) []).bind fun _ => carries_pure _
  refine (carries_startsClause hs).bind fun _ => carries_ite ?_ ?_
  · refine (carries_acceptWord hs "async").bind fun isAsync => (carries_word hs "for").bind fun _ =>
      (hself .targets).bind_loose (fun target => .expect isWord_in _) fun target =>
        (carries_word hs "in").bind fun _ => (hself .disjunction).bind fun _ => carries_pure _
  · exact (carries_acceptWord hs "if").bind fun _ => carries_ite
      ((hself .disjunction).bind fun condition => carries_pure _) (carries_pure _)

include hneeds hneeds'

omit hself hneeds hneeds' in
theorem carries_moreItems {α β : Type} {loose : β → Bool} {item item' : Reader α}
    (h : Carries s s' tight item item') (hitem : NeedsItem item) (hitem' : NeedsItem item')
    (closing : String) {k k' : List α → Reader β} (hclose : ∀ items, ClosesRow (k items))
    (hk : ∀ items, Carries s s' loose (k items) (k' items)) :
    Carries s s' loose
      (next (Token.isSign closing) >>= fun closed =>
        if closed then k [] else commaItems item >>= fun items => k items.1)
      (next (Token.isSign closing) >>= fun closed =>
        if closed then k' [] else commaItems item' >>= fun items => k' items.1) := by
  have hitems : Carries s s' loose (commaItems item >>= fun items => k items.1)
      (commaItems item' >>= fun items => k' items.1) :=
    (carries_commaItems hs h hitem').bind_loose (fun _ => hclose _) fun _ => hk _
  by_cases hparen : closing = ")"
  · subst hparen
    exact carries_next_paren hs (hk []) hitems ((needsItem_commaItems hitem).bind _)
  · exact (carries_nextSign hs hparen).bind fun _ => carries_ite (hk []) hitems

theorem carries_displayRest {closing : String} (hclosing : closing = "]" ∨ closing = "\x7d")
    (kind : Comprehended) (build : List Expr → Expr) (first : Expr) (spread : Bool) :
    Carries s s' tight (displayRest self closing kind build first spread)
      (displayRest self' closing kind build first spread) := by
  have hend : ∀ items, Carries s s' tight (do sign closing; return build (first :: items))
      (do sign closing; return build (first :: items)) := fun items =>
    (carries_sign hs closing).bind fun _ => carries_pure _
  refine (carries_startsClause hs).bind fun _ => carries_ite (carries_ite (carries_failure _) ?_) ?_
  · exact (carries_clauses hs hself).bind fun cs => (carries_sign hs closing).bind fun _ =>
      carries_pure _
  · refine (carries_acceptSign hs (by decide)).bind fun _ => carries_ite ?_ (hend [])
    exact carries_moreItems hs (hself .item) (hneeds .item) (hneeds' .item) closing
      (fun items => .expect (isSign_closing (.inr hclosing)) _) hend

omit hneeds' in
/-- A yield, which may have a row of items behind its word. -/
theorem carries_yieldRest_paren :
    Carries s s' (fun _ => true) (yieldRest self (Token.isSign ")"))
      (yieldRest self' (Token.isSign ")")) := by
  refine (carries_acceptWord hs "from").bind fun _ => carries_ite ?_ ?_
  · exact (hself .expression).bind fun e => carries_pure _
  · exact carries_next_paren hs (k := fun closed =>
        if closed then pure (Expr.yield none) else do return Expr.yield (some (← self .spreadRow)))
      (carries_pure _) ((hself .spreadRow).bind_pure (l := true) _) ((hneeds .spreadRow).bind _)

theorem carries_parenthesized :
    Carries s s' tight (parenthesized self) (parenthesized self') := by
  have hclose : ∀ {α : Type} (v : Reader α), ClosesRow (sign ")" >>= fun _ => v) := fun v =>
    .expect (isSign_closing (.inl rfl)) _
  have hend : ∀ e : Expr, Carries s s' tight (do sign ")"; return e) (do sign ")"; return e) :=
    fun e => (carries_sign hs ")").bind fun _ => carries_pure _
  refine carries_accept_paren hs (carries_pure _) ?_ ?_
  · refine (carries_acceptWord hs "yield").bind fun _ => carries_ite ?_ ?_
    · exact (carries_yieldRest_paren hs hself hneeds).bind_loose (fun e => hclose _) hend
    · refine (carries_nextSign hs (by decide)).bind fun spread => (hself .item).bind fun first =>
        (carries_startsClause hs).bind fun _ => carries_ite (carries_ite (carries_failure _) ?_) ?_
      · exact (carries_clauses hs hself).bind fun cs => hend _
      · refine (carries_acceptSign hs (by decide)).bind fun _ => carries_ite ?_
          (carries_ite (carries_failure _) (hend _))
        exact carries_moreItems hs (hself .item) (hneeds .item) (hneeds' .item) ")"
          (fun items => hclose _) fun items => hend (.tuple (first :: items))
  · exact .word (by decide) (.next (isSign_of_stops (by decide)) ((hneeds .item).bind _))

end Nested

end Carries

end LambdaText.Code
