import LambdaText.Proofs.Code.Levels

/-!
# How an expression starts

The levels of an expression that starts with an atom read the atom first. In front of a line end,
an assignment sign, a comma, a colon or a closing bracket they read nothing else.
-/

namespace LambdaText.Code

open Reader

/-- The tokens in front of which every expression ends. -/
def haltTokens : List Token :=
  [.newline, .sign ":=", .sign ",", .sign ":", .sign ")", .sign "]", .sign "\x7d"]

/-- Tokens in front of which every expression ends. -/
inductive Halts : List Token → Prop
  | cons {t : Token} (h : t ∈ haltTokens) (rest : List Token) : Halts (t :: rest)

theorem Halts.newline (rest : List Token) : Halts (.newline :: rest) :=
  .cons (by simp [haltTokens]) rest

theorem Halts.assignment (rest : List Token) : Halts (.sign ":=" :: rest) :=
  .cons (by simp [haltTokens]) rest

/-- A reader that meets a token reads what follows with another reader first, and reads nothing else
in front of a halt. -/
def StartsWith (t : Token) (first r : Reader Expr) : Prop :=
  ∃ k : Expr → Reader Expr, (∀ tokens, r (t :: tokens) = (first >>= k) tokens) ∧
    ∀ e tokens, Halts tokens → k e tokens = some (e, tokens)

section Combinators

variable {α β : Type} {t : Token} {first r : Reader Expr}

theorem bind_of_eq_some {r : Reader α} {k : α → Reader β} {tokens rest : List Token} {v : α}
    (h : r tokens = some (v, rest)) : (r >>= k) tokens = k v rest := by
  have hbind : (r >>= k) tokens = (r tokens).bind fun found => k found.1 found.2 := rfl
  rw [hbind, h, Option.bind_some]

theorem iterate_apply (step : α → Reader (Option α)) (a : α) (tokens : List Token) :
    iterate step a tokens = iterateFor step (tokens.length + 1) a tokens := rfl

theorem iterate_of_none {step : α → Reader (Option α)} {a : α} {tokens : List Token}
    (h : step a tokens = some (none, tokens)) : iterate step a tokens = some (a, tokens) := by
  rw [iterate_apply, iterateFor, bind_of_eq_some h]
  rfl

theorem Halts.accept {tokens : List Token} (h : Halts tokens) {test : Token → Bool}
    (htest : ∀ t ∈ haltTokens, test t = false) :
    Reader.accept test tokens = some (false, tokens) := by
  cases h with
  | cons ht rest => exact accept_of_not fun _ h => Option.some.inj h ▸ htest _ ht

theorem choice_cons (meaning? : Token → Option β) (k : β → Reader α) (r : Reader α) (t : Token)
    (tokens : List Token) : choice meaning? k r (t :: tokens) =
      (match meaning? t with
        | some b => do skip; k b
        | none => r : Reader α) (t :: tokens) := rfl

theorem choice_of_none {meaning? : Token → Option β} {t : Token} (h : meaning? t = none)
    (k : β → Reader α) (r : Reader α) (tokens : List Token) :
    choice meaning? k r (t :: tokens) = r (t :: tokens) := by
  rw [choice_cons, h]

theorem Halts.choice {tokens : List Token} (h : Halts tokens) {meaning? : Token → Option β}
    (hmeaning : ∀ t ∈ haltTokens, (meaning? t).isNone) (k : β → Reader α) (r : Reader α) :
    Code.choice meaning? k r tokens = r tokens := by
  cases h with
  | cons ht rest => exact choice_of_none (Option.isNone_iff_eq_none.1 (hmeaning _ ht)) k r rest

theorem StartsWith.bind (h : StartsWith t first r) {f : Expr → Reader Expr}
    (hf : ∀ e tokens, Halts tokens → f e tokens = some (e, tokens)) :
    StartsWith t first (r >>= f) := by
  obtain ⟨k, hread, hhalt⟩ := h
  refine ⟨fun e => k e >>= f, fun tokens => ?_, fun e tokens htokens => ?_⟩
  · rw [← bind_assoc]
    change (r (t :: tokens)).bind _ = ((first >>= k) tokens).bind _
    rw [hread]
  · exact (bind_of_eq_some (hhalt e tokens htokens)).trans (hf e tokens htokens)

theorem StartsWith.accept {test : Token → Bool} {k : Bool → Reader Expr} (htest : test t = false)
    (h : StartsWith t first (k false)) : StartsWith t first (Reader.accept test >>= k) := by
  obtain ⟨k', hread, hhalt⟩ := h
  refine ⟨k', fun tokens => ?_, hhalt⟩
  rw [bind_of_eq_some (accept_of_not fun _ h => Option.some.inj h ▸ htest), hread]

theorem StartsWith.read {r : Reader Expr} (h : StartsWith t first r) {tokens rest : List Token}
    {e : Expr} (hfirst : first tokens = some (e, rest)) (hrest : Halts rest) :
    r (t :: tokens) = some (e, rest) := by
  obtain ⟨k, hread, hhalt⟩ := h
  rw [hread, bind_of_eq_some hfirst, hhalt e rest hrest]

end Combinators

section Levels

variable {t : Token} {first : Reader Expr} {self : Goal → Reader Expr}
  {field : List Char → Option Expr}

theorem startsWith_primary (h : ∀ tokens, atom self field (t :: tokens) = first tokens) :
    StartsWith t first (primary self field) := by
  have hatom : StartsWith t first (atom self field) :=
    ⟨pure, fun tokens => by rw [bind_pure, h], fun _ _ _ => rfl⟩
  refine hatom.bind fun e tokens htokens => iterate_of_none ?_
  iterate 3 refine (bind_of_eq_some (htokens.accept (by decide))).trans ?_
  rfl

theorem startsWith_factor (h : ∀ tokens, atom self field (t :: tokens) = first tokens)
    (hawait : t.isWord "await" = false) (hunary : unarySign? t = none) :
    StartsWith t first (factor self field) := by
  have hpower : StartsWith t first (power self field) := by
    refine .accept hawait ((startsWith_primary h).bind fun e tokens htokens => ?_)
    exact bind_of_eq_some (htokens.accept (by decide))
  obtain ⟨k, hread, hhalt⟩ := hpower
  exact ⟨k, fun tokens => by rw [factor_eq, choice_of_none hunary, hread], hhalt⟩

theorem startsWith_levels {levels : List (List (String × BinaryOp))} {operand : Reader Expr}
    (h : StartsWith t first operand)
    (hlevels : ∀ level ∈ levels, ∀ t ∈ haltTokens, (levelSign? level t).isNone) :
    StartsWith t first (levels.foldr (fun level operand =>
      leftChain operand (levelSign? level) Expr.binary) operand) := by
  induction levels with
  | nil => exact h
  | cons level levels ih =>
    rw [List.forall_mem_cons] at hlevels
    exact (ih hlevels.2).bind fun e tokens htokens =>
      iterate_of_none (htokens.choice hlevels.1 _ _)

theorem comparisonOp?_of_halts {tokens : List Token} (h : Halts tokens) :
    comparisonOp? tokens = some (none, tokens) := by
  cases h with
  | cons ht rest =>
    simp only [haltTokens, List.mem_cons, List.not_mem_nil, or_false] at ht
    rcases ht with rfl | rfl | rfl | rfl | rfl | rfl | rfl <;> rfl

theorem startsWith_comparison (h : StartsWith t first (factor self field)) :
    StartsWith t first (comparison self field) :=
  (startsWith_levels h (by decide)).bind fun _ _ htokens =>
    bind_of_eq_some (iterate_of_none (bind_of_eq_some (comparisonOp?_of_halts htokens)))

theorem isWord_haltTokens (w : String) : ∀ t ∈ haltTokens, t.isWord w = false := by
  intro t ht
  simp only [haltTokens, List.mem_cons, List.not_mem_nil, or_false] at ht
  rcases ht with rfl | rfl | rfl | rfl | rfl | rfl | rfl <;> rfl

theorem startsWith_connected (w : String) (conjunction : Bool) {operand : Reader Expr}
    (h : StartsWith t first operand) : StartsWith t first (connected w conjunction operand) :=
  h.bind fun _ _ htokens =>
    bind_of_eq_some (iterate_of_none (bind_of_eq_some (htokens.accept (isWord_haltTokens w))))

theorem startsWith_expression_of_factor (h : StartsWith t first (factor self field))
    (hnot : t.isWord "not" = false) (hlambda : t.isWord "lambda" = false) :
    StartsWith t first (expression self field) := by
  have hinversion : StartsWith t first (inversion self field) :=
    .accept hnot (startsWith_comparison h)
  refine .accept hlambda (StartsWith.bind ?_ fun _ _ htokens =>
    bind_of_eq_some (htokens.accept (by decide)))
  exact startsWith_connected "or" false (startsWith_connected "and" true hinversion)

theorem startsWith_expression (h : ∀ tokens, atom self field (t :: tokens) = first tokens)
    (hword : ∀ w ∈ ["await", "not", "lambda"], t.isWord w = false)
    (hunary : unarySign? t = none) : StartsWith t first (expression self field) :=
  startsWith_expression_of_factor (startsWith_factor h (hword _ (by simp)) hunary)
    (hword _ (by simp)) (hword _ (by simp))

end Levels

end LambdaText.Code
