import LambdaText.Code.Parsing
import Mathlib.Data.List.Basic

/-!
# Readers with other tokens behind

What a reader of expressions takes up does not depend on whether the tokens behind it end with a
line or with a parenthesis. A reader carries over from one ending to the other if it succeeds on the
second where it does on the first, with the same tokens left in front of the ending.
-/

namespace LambdaText.Code

open Reader

/-- Ends of token rows that an expression may have behind it: those of the last line of a block, and
those of a text in parentheses. -/
inductive Endings : List Token → List Token → Prop
  | none : Endings [] []
  | close : Endings [.newline, .dedent] [.sign ")", .newline]

/-- Whether a token may stand behind a row of items but never starts one. -/
def stopsRow : Token → Bool
  | .newline => true
  | .sign s => s == ")" || s == "]" || s == "\x7d" || s == ";"
  | .word w => w == "in"
  | _ => false

/-- Whether no item of a row starts in front. -/
def RowStops (tokens : List Token) : Prop := ∀ t ∈ tokens.head?, stopsRow t = true

/-- What the first reader reads in front of the one ending, the second one reads in front of the
other. For a loose result this holds only if no item of a row is left in front. -/
def Carries {α : Type} (s s' : List Token) (loose : α → Bool) (r r' : Reader α) : Prop :=
  ∀ ⦃front v rest⦄, r (front ++ s) = some (v, rest) → (loose v = true → RowStops rest) →
    ∃ left, rest = left ++ s ∧ r' (front ++ s') = some (v, left ++ s')

/-- No result is loose. -/
def tight {α : Type} : α → Bool := fun _ => false

/-- Whether a reader fails where no item of a row starts. -/
def NeedsItem {α : Type} (r : Reader α) : Prop := ∀ ⦃tokens⦄, RowStops tokens → r tokens = none

/-- Whether a reader succeeds only where no item of a row starts. -/
def ClosesRow {α : Type} (r : Reader α) : Prop :=
  ∀ ⦃tokens v rest⦄, r tokens = some (v, rest) → RowStops tokens

/-- Whether a test does not tell endings apart. -/
structure OpenTest (test : Token → Bool) : Prop where
  newline : test .newline = false
  dedent : test .dedent = false
  paren : test (.sign ")") = false

theorem OpenTest.sign {t : String} (h : t ≠ ")") : OpenTest (Token.isSign t) :=
  ⟨rfl, rfl, by simpa [Token.isSign] using Ne.symm h⟩

theorem OpenTest.word (w : String) : OpenTest (Token.isWord w) := ⟨rfl, rfl, rfl⟩

theorem OpenTest.name : OpenTest isName := ⟨rfl, rfl, rfl⟩

section Combinators

variable {α β : Type}

theorem bind_eq_some {r : Reader α} {k : α → Reader β} {tokens rest : List Token} {v : β} :
    (r >>= k) tokens = some (v, rest) ↔
      ∃ u middle, r tokens = some (u, middle) ∧ k u middle = some (v, rest) := by
  simp [bind, StateT.bind, Option.bind_eq_some_iff]

theorem pure_eq_some {v v' : α} {tokens rest : List Token} :
    (pure v : Reader α) tokens = some (v', rest) ↔ v = v' ∧ tokens = rest := by
  change some (v, tokens) = some (v', rest) ↔ _
  rw [Option.some.injEq, Prod.mk.injEq]

theorem map_optional (item : Reader β) (f : β → α) (tokens : List Token) :
    (do return (← Reader.optional item).map f : Reader (Option α)) tokens =
      match item tokens with
      | some (u, rest) => some (some (f u), rest)
      | none => some (none, tokens) := by
  have hbind : (do return (← Reader.optional item).map f : Reader (Option α)) tokens =
      (Reader.optional item tokens).bind fun found => some (found.1.map f, found.2) := rfl
  rw [hbind, Reader.optional]
  cases item tokens <;> rfl

/-- A step of reading items: an item behind a comma, or a comma behind an item. -/
def commaStep (item : Reader α) (u : List α × Bool) : Reader (Option (List α × Bool)) :=
  if u.2 then do return (← Reader.optional item).map fun a => (a :: u.1, false)
  else do if ← acceptSign "," then return some (u.1, true) else return none

theorem commaItems_eq (item : Reader α) : commaItems item = do
    let first ← item
    let u ← iterate (commaStep item) ([first], false)
    return (u.1.reverse, u.2) := by
  refine congrArg (item >>= ·) (funext fun first => ?_)
  refine congrArg (fun step => (do
    let u ← iterate step ([first], false)
    return (u.1.reverse, u.2) : Reader (List α × Bool))) (funext ?_)
  rintro ⟨items, comma⟩
  cases comma with
  | false => rfl
  | true =>
    refine congrArg (Reader.optional item >>= ·) (funext fun found => ?_)
    cases found <;> rfl

/-! ### Where no item starts -/

theorem NeedsItem.bind {r : Reader α} (h : NeedsItem r) (k : α → Reader β) :
    NeedsItem (r >>= k) := by
  intro tokens hstop
  simp [Bind.bind, StateT.bind, h hstop]

theorem NeedsItem.failure : NeedsItem (failure : Reader α) := fun _ _ => rfl

theorem next_apply (test : Token → Bool) (tokens : List Token) :
    next test tokens = some ((tokens.head?.map test).getD false, tokens) := rfl

theorem accept_cons (test : Token → Bool) (t : Token) (tokens : List Token) :
    accept test (t :: tokens) =
      if test t then some (true, tokens) else some (false, t :: tokens) := by
  have hbind : accept test (t :: tokens) =
      (if test t then (do skip; return true) else return false : Reader Bool) (t :: tokens) := rfl
  rw [hbind]
  split <;> rfl

theorem accept_of_not {test : Token → Bool} {tokens : List Token}
    (h : ∀ t ∈ tokens.head?, test t = false) : accept test tokens = some (false, tokens) := by
  cases tokens with
  | nil => rfl
  | cons t tokens => rw [accept_cons, h t rfl, if_neg Bool.false_ne_true]

theorem expect_cons (test : Token → Bool) (t : Token) (tokens : List Token) :
    expect test (t :: tokens) = if test t then some ((), tokens) else none := by
  have hbind : expect test (t :: tokens) = (accept test (t :: tokens)).bind fun found =>
      (if found.1 then pure () else failure : Reader Unit) found.2 := rfl
  rw [hbind, accept_cons]
  split <;> rfl

/-- A test that no token passes where no item starts. -/
theorem NeedsItem.next {test : Token → Bool} (htest : ∀ t, stopsRow t = true → test t = false)
    {k : Bool → Reader β} (h : NeedsItem (k false)) : NeedsItem (Reader.next test >>= k) := by
  intro tokens hstop
  have hfalse : (tokens.head?.map test).getD false = false := by
    cases tokens with
    | nil => rfl
    | cons t tokens => exact htest t (hstop t rfl)
  change k ((tokens.head?.map test).getD false) tokens = none
  rw [hfalse]
  exact h hstop

theorem NeedsItem.accept {test : Token → Bool} (htest : ∀ t, stopsRow t = true → test t = false)
    {k : Bool → Reader β} (h : NeedsItem (k false)) : NeedsItem (Reader.accept test >>= k) := by
  intro tokens hstop
  have hbind : (Reader.accept test >>= k) tokens =
      (Reader.accept test tokens).bind fun found => k found.1 found.2 := rfl
  rw [hbind, accept_of_not fun t ht => htest t (hstop t ht)]
  exact h hstop

theorem ClosesRow.expect {test : Token → Bool} (h : ∀ t, test t = true → stopsRow t = true)
    (k : Unit → Reader β) : ClosesRow (Reader.expect test >>= k) := by
  intro tokens v rest hread t ht
  obtain ⟨u, middle, hu, -⟩ := bind_eq_some.1 hread
  cases tokens with
  | nil => cases ht
  | cons t' tokens =>
    cases ht
    rw [expect_cons] at hu
    split at hu
    · next hpass => exact h t hpass
    · cases hu

/-! ### Readers that carry over -/

section Carries

variable {s s' : List Token} {loose : α → Bool}

theorem carries_pure (v : α) : Carries s s' loose (pure v) (pure v) := by
  intro front v' rest h _
  obtain ⟨rfl, rfl⟩ := pure_eq_some.1 h
  exact ⟨front, rfl, rfl⟩

theorem carries_failure (r : Reader α) : Carries s s' loose failure r := nofun

theorem Carries.loosen {r r' : Reader α} (h : Carries s s' tight r r') :
    Carries s s' loose r r' :=
  fun _ _ _ hr _ => h hr nofun

/-- One reader after another one. -/
theorem Carries.bind {r r' : Reader β} {k k' : β → Reader α} (hr : Carries s s' tight r r')
    (hk : ∀ u, Carries s s' loose (k u) (k' u)) : Carries s s' loose (r >>= k) (r' >>= k') := by
  intro front v rest h hstop
  obtain ⟨u, middle, hu, hv⟩ := bind_eq_some.1 h
  obtain ⟨left, rfl, hu'⟩ := hr hu nofun
  obtain ⟨left', rfl, hv'⟩ := hk u hv hstop
  exact ⟨left', rfl, bind_eq_some.2 ⟨u, _, hu', hv'⟩⟩

theorem Carries.bind_loose {loose' : β → Bool} {r r' : Reader β} {k k' : β → Reader α}
    (hr : Carries s s' loose' r r') (hclose : ∀ u, ClosesRow (k u))
    (hk : ∀ u, Carries s s' loose (k u) (k' u)) : Carries s s' loose (r >>= k) (r' >>= k') := by
  intro front v rest h hstop
  obtain ⟨u, middle, hu, hv⟩ := bind_eq_some.1 h
  obtain ⟨left, rfl, hu'⟩ := hr hu fun _ => hclose u hv
  obtain ⟨left', rfl, hv'⟩ := hk u hv hstop
  exact ⟨left', rfl, bind_eq_some.2 ⟨u, _, hu', hv'⟩⟩

/-- What is made of a result is as loose as the result. -/
theorem Carries.bind_pure {l : Bool} {r r' : Reader β} (hr : Carries s s' (fun _ => l) r r')
    (f : β → α) :
    Carries s s' (fun _ => l) (r >>= fun u => pure (f u)) (r' >>= fun u => pure (f u)) := by
  intro front v rest h hstop
  obtain ⟨u, middle, hu, hv⟩ := bind_eq_some.1 h
  obtain ⟨rfl, rfl⟩ := pure_eq_some.1 hv
  obtain ⟨left, rfl, hu'⟩ := hr hu hstop
  exact ⟨left, rfl, bind_eq_some.2 ⟨u, _, hu', rfl⟩⟩

theorem carries_ite {c : Prop} [Decidable c] {r₁ r₁' r₂ r₂' : Reader α}
    (h₁ : Carries s s' loose r₁ r₁') (h₂ : Carries s s' loose r₂ r₂') :
    Carries s s' loose (if c then r₁ else r₂) (if c then r₁' else r₂') := by
  split
  · exact h₁
  · exact h₂

theorem carries_iterateFor {step step' : β → Reader (Option β)} {loose : Option β → Bool}
    (hsome : ∀ v, loose (some v) = false)
    (hstep : ∀ v, Carries s s' loose (step v) (step' v)) (fuel : Nat) (v : β) :
    Carries s s' (fun _ => loose none) (iterateFor step fuel v) (iterateFor step' fuel v) := by
  induction fuel generalizing v with
  | zero => exact carries_failure _
  | succ fuel ih =>
    intro front v' rest h hstop
    obtain ⟨next, middle, hnext, hrest⟩ := bind_eq_some.1 h
    cases next with
    | some u =>
      obtain ⟨left, rfl, hnext'⟩ := hstep v hnext fun hloose => absurd hloose (by simp [hsome])
      obtain ⟨left', rfl, hrest'⟩ := ih u hrest hstop
      exact ⟨left', rfl, bind_eq_some.2 ⟨some u, _, hnext', hrest'⟩⟩
    | none =>
      obtain ⟨rfl, rfl⟩ := pure_eq_some.1 hrest
      obtain ⟨left, rfl, hnext'⟩ := hstep v hnext hstop
      exact ⟨left, rfl, bind_eq_some.2 ⟨none, _, hnext', rfl⟩⟩

variable (hs : Endings s s')
include hs

theorem carries_next {test : Token → Bool} (htest : OpenTest test) :
    Carries s s' tight (next test) (next test) := by
  intro front v rest h _
  cases h
  refine ⟨front, rfl, ?_⟩
  cases front with
  | nil => cases hs <;> simp [next_apply, htest.newline, htest.paren]
  | cons t front => rfl

theorem carries_second {test : Token → Bool} (htest : OpenTest test) :
    Carries s s' tight (second test) (second test) := by
  intro front v rest h _
  cases h
  refine ⟨front, rfl, ?_⟩
  have happly : ∀ tokens, second test tokens =
      some (((tokens.drop 1).head?.map test).getD false, tokens) := fun _ => rfl
  rw [happly]
  match front with
  | [] => cases hs <;> simp [htest.newline, htest.dedent]
  | [t] => cases hs <;> simp [htest.newline, htest.paren]
  | t :: u :: front => rfl

theorem carries_accept {test : Token → Bool} (htest : OpenTest test) :
    Carries s s' tight (accept test) (accept test) := by
  intro front v rest h _
  cases front with
  | nil =>
    have hstay : ∀ {tokens}, Endings tokens s' ∨ Endings s tokens →
        accept test tokens = some (false, tokens) := by
      rintro tokens (h | h) <;> refine accept_of_not fun t ht => ?_ <;> cases h <;> cases ht
      · exact htest.newline
      · exact htest.paren
    rw [List.nil_append, hstay (.inl hs)] at h
    cases h
    exact ⟨[], rfl, hstay (.inr hs)⟩
  | cons t front =>
    rw [List.cons_append, accept_cons] at h
    rw [List.cons_append, accept_cons]
    split at h
    · next hpass =>
      cases h
      exact ⟨front, rfl, if_pos hpass⟩
    · next hpass =>
      cases h
      exact ⟨t :: front, rfl, if_neg hpass⟩

theorem carries_expect {test : Token → Bool} (htest : test .newline = false) :
    Carries s s' tight (expect test) (expect test) := by
  intro front v rest h _
  cases front with
  | nil =>
    cases hs with
    | none => cases h
    | close =>
      rw [List.nil_append, expect_cons, htest] at h
      cases h
  | cons t front =>
    rw [List.cons_append, expect_cons] at h
    rw [List.cons_append, expect_cons]
    split at h
    · next hpass =>
      cases h
      exact ⟨front, rfl, if_pos hpass⟩
    · cases h

/-- A reader that looks at the next token, which is no token of an ending, and takes it up. -/
theorem carries_peek {k k' : Option Token → Reader α} (hend : Carries s s' loose (k none) (k' none))
    (hnewline : k (some .newline) = k none)
    (hparen : k' (some (.sign ")")) = k' none)
    (hcons : ∀ t front v rest, k (some t) (t :: (front ++ s)) = some (v, rest) →
      (loose v = true → RowStops rest) →
      ∃ left, rest = left ++ s ∧ k' (some t) (t :: (front ++ s')) = some (v, left ++ s')) :
    Carries s s' loose (peek? >>= k) (peek? >>= k') := by
  intro front v rest h hstop
  cases front with
  | nil =>
    have hfirst : (peek? >>= k) s = k none s := by
      cases hs
      · rfl
      · exact congrFun hnewline _
    have hsecond : (peek? >>= k') s' = k' none s' := by
      cases hs
      · rfl
      · exact congrFun hparen _
    rw [List.nil_append, hfirst] at h
    obtain ⟨left, hleft, h'⟩ := @hend [] v rest h hstop
    exact ⟨left, hleft, hsecond.trans h'⟩
  | cons t front => exact hcons t front v rest h hstop

theorem carries_name : Carries s s' tight name name := by
  refine carries_peek hs (carries_failure _) rfl rfl fun t front v rest h _ => ?_
  cases t with
  | name n =>
    cases h
    exact ⟨front, rfl, rfl⟩
  | _ => cases h

/-- A reader that asks first whether the parenthesis closes, and cannot go on if it does not. -/
theorem carries_next_paren {k k' : Bool → Reader α} (htrue : Carries s s' loose (k true) (k' true))
    (hfalse : Carries s s' loose (k false) (k' false)) (hneeds : NeedsItem (k false)) :
    Carries s s' loose (next (Token.isSign ")") >>= k) (next (Token.isSign ")") >>= k') := by
  intro front v rest h hstop
  cases front with
  | nil =>
    have hfail : k false s = none := hneeds (by cases hs <;> simp [RowStops, stopsRow])
    have hfirst : (next (Token.isSign ")") >>= k) s = k false s := by cases hs <;> rfl
    rw [List.nil_append, hfirst, hfail] at h
    cases h
  | cons t front =>
    have hread : ∀ (k : Bool → Reader α) tokens, (next (Token.isSign ")") >>= k) (t :: tokens) =
        k (t.isSign ")") (t :: tokens) := fun _ _ => rfl
    rw [List.cons_append, hread] at h
    rw [List.cons_append, hread]
    cases ht : t.isSign ")" with
    | true =>
      rw [ht] at h
      exact @htrue (t :: front) v rest h hstop
    | false =>
      rw [ht] at h
      exact @hfalse (t :: front) v rest h hstop

theorem carries_accept_paren {k k' : Bool → Reader α}
    (htrue : Carries s s' loose (k true) (k' true))
    (hfalse : Carries s s' loose (k false) (k' false)) (hneeds : NeedsItem (k false)) :
    Carries s s' loose (acceptSign ")" >>= k) (acceptSign ")" >>= k') := by
  intro front v rest h hstop
  cases front with
  | nil =>
    have hfail : k false s = none := hneeds (by cases hs <;> simp [RowStops, stopsRow])
    have hfirst : (acceptSign ")" >>= k) s = k false s := by cases hs <;> rfl
    rw [List.nil_append, hfirst, hfail] at h
    cases h
  | cons t front =>
    have hread : ∀ (k : Bool → Reader α) tokens, (acceptSign ")" >>= k) (t :: tokens) =
        if t.isSign ")" then k true tokens else k false (t :: tokens) := by
      intro k tokens
      have hbind : (acceptSign ")" >>= k) (t :: tokens) =
          (accept (Token.isSign ")") (t :: tokens)).bind fun found => k found.1 found.2 := rfl
      rw [hbind, accept_cons]
      split <;> rfl
    rw [List.cons_append, hread] at h
    rw [List.cons_append, hread]
    split at h
    · next ht =>
      rw [if_pos ht]
      exact htrue h hstop
    · next ht =>
      rw [if_neg ht]
      exact @hfalse (t :: front) v rest h hstop

/-- Steps that are repeated; the last one of them may be loose. -/
theorem carries_iterate_loose {step step' : β → Reader (Option β)} {loose : Option β → Bool}
    (hsome : ∀ v, loose (some v) = false)
    (hstep : ∀ v, Carries s s' loose (step v) (step' v)) (v : β) :
    Carries s s' (fun _ => loose none) (iterate step v) (iterate step' v) := by
  intro front v' rest h hstop
  have hlength : (front ++ s).length = (front ++ s').length := by cases hs <;> simp
  have h' : iterateFor step ((front ++ s).length + 1) v (front ++ s) = some (v', rest) := h
  rw [hlength] at h'
  exact carries_iterateFor hsome hstep _ v h' hstop

theorem carries_iterate {step step' : β → Reader (Option β)}
    (hstep : ∀ v, Carries s s' tight (step v) (step' v)) (v : β) :
    Carries s s' tight (iterate step v) (iterate step' v) :=
  carries_iterate_loose hs (fun _ => rfl) hstep v

theorem RowStops.other {front : List Token} (h : RowStops (front ++ s)) :
    RowStops (front ++ s') := by
  cases front with
  | nil => cases hs <;> simp [RowStops, stopsRow]
  | cons t front => exact h

/-- An item that may be left out where none starts. -/
theorem carries_optional {item item' : Reader β} (h : Carries s s' tight item item')
    (hneeds : NeedsItem item') (f : β → α) :
    Carries s s' Option.isNone (do return (← Reader.optional item).map f)
      (do return (← Reader.optional item').map f) := by
  intro front v rest hv hstop
  rw [map_optional] at hv
  rw [map_optional]
  cases hitem : item (front ++ s) with
  | some found =>
    rw [hitem] at hv
    cases hv
    obtain ⟨left, hleft, hitem'⟩ := h hitem nofun
    exact ⟨left, hleft, by rw [hitem']⟩
  | none =>
    rw [hitem] at hv
    cases hv
    exact ⟨front, rfl, by rw [hneeds ((hstop rfl).other hs)]⟩

theorem carries_commaItems {item item' : Reader β} (h : Carries s s' tight item item')
    (hneeds : NeedsItem item') :
    Carries s s' (fun _ => true) (commaItems item) (commaItems item') := by
  have hstep : ∀ u, Carries s s' Option.isNone (commaStep item u) (commaStep item' u) := by
    rintro ⟨items, comma⟩
    cases comma with
    | true => exact carries_optional hs h hneeds _
    | false =>
      refine Carries.loosen ((carries_accept hs (.sign (by decide))).bind fun b => ?_)
      cases b <;> exact carries_pure _
  rw [commaItems_eq, commaItems_eq]
  exact h.bind fun first => Carries.bind_pure (l := true)
    (carries_iterate_loose hs (fun _ => rfl) hstep _) _

end Carries

end Combinators

end LambdaText.Code
