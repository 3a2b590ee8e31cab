import LambdaText.Proofs.Code.Starts
import Mathlib.Data.List.Forall2

/-!
# Displays of rows

Items that are read wherever a halt follows are read as rows with commas between them, and brackets
around such rows as tuples, lists and dictionaries.
-/

namespace LambdaText.Code

open Reader

/-! ### Rows -/

def commaTokens (rows : List (List Token)) : List Token := List.intercalate [.sign ","] rows

def commaTail (rows : List (List Token)) : List Token := rows.flatMap (.sign "," :: ·)

theorem commaTokens_cons (row : List Token) (rows : List (List Token)) :
    commaTokens (row :: rows) = row ++ commaTail rows := by
  induction rows generalizing row with
  | nil => simp [commaTokens, commaTail]
  | cons next rows ih =>
    have hcons : commaTokens (row :: next :: rows) =
        row ++ .sign "," :: commaTokens (next :: rows) := by
      simp [commaTokens, List.intercalate_cons_cons]
    rw [hcons, ih]
    rfl

/-- Whether a value is read from a row of tokens wherever a halt follows. -/
def ReadsBefore {α : Type} (r : Reader α) (row : List Token) (v : α) : Prop :=
  row ≠ [] ∧ ∀ rest, Halts rest → r (row ++ rest) = some (v, rest)

theorem Halts.sign {s : String} (h : s ∈ [":=", ",", ":", ")", "]", "\x7d"]) (rest : List Token) :
    Halts (.sign s :: rest) := by
  refine .cons ?_ rest
  simp only [List.mem_cons, List.not_mem_nil, or_false] at h
  rcases h with rfl | rfl | rfl | rfl | rfl | rfl <;> simp [haltTokens]

theorem acceptSign_self (s : String) (rest : List Token) :
    acceptSign s (.sign s :: rest) = some (true, rest) := by
  rw [acceptSign, accept_cons, if_pos (by simp [Token.isSign])]

theorem acceptSign_of_not {s : String} {t : Token} (h : t.isSign s = false) (rest : List Token) :
    acceptSign s (t :: rest) = some (false, t :: rest) := by
  rw [acceptSign, accept_cons, h, if_neg Bool.false_ne_true]

theorem next_cons (test : Token → Bool) (t : Token) (rest : List Token) :
    next test (t :: rest) = some (test t, t :: rest) := rfl

theorem sign_self (s : String) (rest : List Token) :
    Reader.sign s (.sign s :: rest) = some ((), rest) := by
  rw [Reader.sign, expect_cons, if_pos (by simp [Token.isSign])]

theorem Halts.startsClause {tokens : List Token} (h : Halts tokens) :
    Code.startsClause tokens = some (false, tokens) := by
  cases h with
  | cons ht rest =>
    simp only [haltTokens, List.mem_cons, List.not_mem_nil, or_false] at ht
    rcases ht with rfl | rfl | rfl | rfl | rfl | rfl | rfl <;> rfl

section Rows

variable {α β : Type} {item : Reader α} {rows : List (List Token)} {values : List α}

theorem halts_commaTail {t : Token} (ht : t ∈ haltTokens) (rows : List (List Token))
    (rest : List Token) : Halts (commaTail rows ++ t :: rest) := by
  cases rows with
  | nil => exact .cons ht rest
  | cons row rows => exact .sign (by simp) _

theorem iterateFor_of_some {step : β → Reader (Option β)} {a b : β} {tokens rest : List Token}
    (h : step a tokens = some (some b, rest)) (fuel : Nat) :
    iterateFor step (fuel + 1) a tokens = iterateFor step fuel b rest := by
  rw [iterateFor, bind_of_eq_some h]

theorem iterateFor_of_none {step : β → Reader (Option β)} {a : β} {tokens rest : List Token}
    (h : step a tokens = some (none, rest)) (fuel : Nat) :
    iterateFor step (fuel + 1) a tokens = some (a, rest) := by
  rw [iterateFor, bind_of_eq_some h]
  rfl

theorem iterateFor_rows {t : Token} (ht : t ∈ haltTokens) (hcomma : t.isSign "," = false)
    (h : List.Forall₂ (ReadsBefore item) rows values) (out : List α) (rest : List Token) {fuel : Nat}
    (hfuel : 2 * rows.length < fuel) :
    iterateFor (commaStep item) fuel (out, false) (commaTail rows ++ t :: rest) =
      some ((values.reverse ++ out, false), t :: rest) := by
  induction h generalizing out fuel with
  | nil =>
    obtain ⟨fuel, rfl⟩ := Nat.exists_eq_add_of_lt hfuel
    exact iterateFor_of_none (bind_of_eq_some (acceptSign_of_not hcomma rest)) _
  | @cons row value rows values hrow hrows ih =>
    -- A comma, and then the item behind it.
    obtain ⟨fuel, rfl⟩ : ∃ k, fuel = k + 2 := ⟨fuel - 2, by simp at hfuel; omega⟩
    rw [List.length_cons] at hfuel
    have htail : commaTail (row :: rows) ++ t :: rest =
        .sign "," :: (row ++ (commaTail rows ++ t :: rest)) := by
      simp [commaTail]
    have hfirst : commaStep item (out, false)
        (.sign "," :: (row ++ (commaTail rows ++ t :: rest))) =
        some (some (out, true), row ++ (commaTail rows ++ t :: rest)) :=
      bind_of_eq_some (acceptSign_self "," _)
    have hsecond : commaStep item (out, true) (row ++ (commaTail rows ++ t :: rest)) =
        some (some (value :: out, false), commaTail rows ++ t :: rest) := by
      have hoptional : Reader.optional item (row ++ (commaTail rows ++ t :: rest)) =
          some (some value, commaTail rows ++ t :: rest) := by
        rw [Reader.optional, hrow.2 _ (halts_commaTail ht rows rest)]
      exact bind_of_eq_some hoptional
    rw [htail, iterateFor_of_some hfirst, iterateFor_of_some hsecond,
      ih (value :: out) (by omega)]
    simp

theorem length_commaTail (h : List.Forall₂ (ReadsBefore item) rows values) :
    2 * rows.length ≤ (commaTail rows).length := by
  induction h with
  | nil => exact Nat.zero_le _
  | @cons row value rows values hrow hrows ih =>
    have hpos : 0 < row.length := List.length_pos_iff.2 hrow.1
    simp only [commaTail, List.flatMap_cons, List.length_append, List.length_cons] at ih ⊢
    omega

theorem commaItems_rows {row : List Token} {value : α} (hfirst : ReadsBefore item row value)
    (h : List.Forall₂ (ReadsBefore item) rows values) {t : Token} (ht : t ∈ haltTokens)
    (hcomma : t.isSign "," = false) (rest : List Token) :
    commaItems item (commaTokens (row :: rows) ++ t :: rest) =
      some ((value :: values, false), t :: rest) := by
  have hlength := length_commaTail h
  rw [commaItems_eq, commaTokens_cons, List.append_assoc,
    bind_of_eq_some (hfirst.2 _ (halts_commaTail ht rows rest))]
  have hrows : iterate (commaStep item) ([value], false) (commaTail rows ++ t :: rest) =
      some ((values.reverse ++ [value], false), t :: rest) := by
    rw [iterate_apply]
    refine iterateFor_rows ht hcomma h [value] rest ?_
    rw [List.length_append, List.length_cons]
    omega
  rw [bind_of_eq_some hrows]
  change some (((values.reverse ++ [value]).reverse, false), t :: rest) = _
  simp

/-- Tokens that items start with that are neither spread nor assigned. -/
def opensPlain : Token → Bool
  | .numeral _ | .quoted _ _ => true
  | .word w => ["None", "True", "False"].contains w
  | .sign s => ["-", "(", "[", "\x7b"].contains s
  | _ => false

theorem isSign_of_opensPlain {t : Token} (h : opensPlain t = true) {s : String}
    (hs : s ∉ ["-", "(", "[", "\x7b"]) : t.isSign s = false := by
  cases t with
  | sign s' =>
    refine beq_eq_false_iff_ne.2 ?_
    rintro rfl
    exact hs (by simpa [opensPlain] using h)
  | _ => rfl

theorem isWord_of_opensPlain {t : Token} (h : opensPlain t = true) {w : String}
    (hw : w ∉ ["None", "True", "False"]) : t.isWord w = false := by
  cases t with
  | word w' =>
    refine beq_eq_false_iff_ne.2 ?_
    rintro rfl
    exact hw (by simpa [opensPlain] using h)
  | _ => rfl

/-- The first token of a row is one that an item starts with. -/
def OpensPlain (row : List Token) : Prop := ∀ t ∈ row.head?, opensPlain t = true

/-- The brackets that close displays. -/
def closings : List String := [")", "]", "\x7d"]

theorem mem_haltTokens_of_closing {closing : String} (h : closing ∈ closings) :
    Token.sign closing ∈ haltTokens ∧ Token.isSign "," (.sign closing) = false ∧
      closing ∉ ["-", "(", "[", "\x7b"] := by
  simp only [closings, List.mem_cons, List.not_mem_nil, or_false] at h
  rcases h with rfl | rfl | rfl <;> exact ⟨by simp [haltTokens], by decide, by decide⟩

theorem itemsBehind_rows (h : List.Forall₂ (ReadsBefore item) rows values) {closing : String}
    (hclosing : closing ∈ closings) (hopen : ∀ row ∈ rows, OpensPlain row)
    (k : List α → Reader β) (rest : List Token) :
    (next (Token.isSign closing) >>= fun closed =>
      if closed then k [] else commaItems item >>= fun items => k items.1)
        (commaTokens rows ++ .sign closing :: rest) = k values (.sign closing :: rest) := by
  obtain ⟨ht, hcomma, hplain⟩ := mem_haltTokens_of_closing hclosing
  cases h with
  | nil =>
    have hnext : next (Token.isSign closing) (.sign closing :: rest) =
        some (true, .sign closing :: rest) := by
      rw [next_cons, Token.isSign, beq_self_eq_true]
    exact bind_of_eq_some hnext
  | @cons row value rows values hrow hrows =>
    obtain ⟨t, row', rfl⟩ := List.exists_cons_of_ne_nil hrow.1
    have hnext : next (Token.isSign closing)
        (commaTokens ((t :: row') :: rows) ++ .sign closing :: rest) =
        some (false, commaTokens ((t :: row') :: rows) ++ .sign closing :: rest) := by
      rw [commaTokens_cons, List.append_assoc, List.cons_append, next_cons,
        isSign_of_opensPlain (hopen (t :: row') (by simp) t rfl) hplain]
    rw [bind_of_eq_some hnext, if_neg Bool.false_ne_true,
      bind_of_eq_some (commaItems_rows hrow hrows ht hcomma rest)]

/-- The items behind the first one, if there are any, and what closes them. -/
theorem moreItems_rows (h : List.Forall₂ (ReadsBefore item) rows values) {closing : String}
    (hclosing : closing ∈ closings) (hopen : ∀ row ∈ rows, OpensPlain row)
    (k : List α → Reader β) (rest : List Token) :
    (acceptSign "," >>= fun comma =>
      if comma then
        next (Token.isSign closing) >>= fun closed =>
          if closed then k [] else commaItems item >>= fun items => k items.1
      else k []) (commaTail rows ++ .sign closing :: rest) = k values (.sign closing :: rest) := by
  obtain ⟨-, hcomma, -⟩ := mem_haltTokens_of_closing hclosing
  cases h with
  | nil => exact bind_of_eq_some (acceptSign_of_not hcomma rest)
  | @cons row value rows values hrow hrows =>
    have htail : commaTail (row :: rows) ++ .sign closing :: rest =
        .sign "," :: (commaTokens (row :: rows) ++ .sign closing :: rest) := by
      rw [commaTokens_cons]
      rfl
    rw [htail, bind_of_eq_some (acceptSign_self "," _), if_pos rfl]
    exact itemsBehind_rows (.cons hrow hrows) hclosing hopen k rest

end Rows

/-! ### Brackets -/

section Brackets

variable {self : Goal → Reader Expr} {rows : List (List Token)} {items : List Expr}

def tupleTokens : List (List Token) → List Token
  | [only] => only ++ [.sign ","]
  | rows => commaTokens rows

theorem tupleTokens_cons (row : List Token) (rows : List (List Token)) :
    tupleTokens (row :: rows) = row ++ .sign "," :: commaTokens rows := by
  cases rows with
  | nil => rfl
  | cons next rows =>
    rw [commaTokens_cons next rows]
    exact commaTokens_cons row (next :: rows)

theorem closes_sign {e : Expr} (s : String) (rest : List Token) :
    (do sign s; return e : Reader Expr) (.sign s :: rest) = some (e, rest) :=
  bind_of_eq_some (sign_self s rest)

theorem readsBefore_first {item : Reader Expr} {row rest : List Token} {e : Expr}
    (hrow : ReadsBefore item row e) (hopen : OpensPlain row) (hrest : Halts rest) :
    ∃ t row', row = t :: row' ∧ opensPlain t = true ∧
      item (t :: (row' ++ rest)) = some (e, rest) := by
  obtain ⟨t, row', rfl⟩ := List.exists_cons_of_ne_nil hrow.1
  exact ⟨t, row', rfl, hopen t rfl, hrow.2 rest hrest⟩

theorem parenthesized_rows (h : List.Forall₂ (ReadsBefore (self .item)) rows items)
    (hopen : ∀ row ∈ rows, OpensPlain row) (rest : List Token) :
    parenthesized self (tupleTokens rows ++ .sign ")" :: rest) = some (.tuple items, rest) := by
  cases h with
  | nil => rfl
  | @cons row e rows items hrow hrows =>
    have hbehind : Halts (.sign "," :: (commaTokens rows ++ .sign ")" :: rest)) := .sign (by simp) _
    obtain ⟨t, row', rfl, ht, hfirst⟩ := readsBefore_first hrow (hopen row (by simp)) hbehind
    rw [tupleTokens_cons, List.append_assoc, List.cons_append, List.cons_append, parenthesized,
      bind_of_eq_some (acceptSign_of_not (isSign_of_opensPlain ht (by decide)) _),
      if_neg Bool.false_ne_true, acceptWord,
      bind_of_eq_some (accept_of_not fun t' ht' => Option.some.inj ht' ▸
        isWord_of_opensPlain ht (by decide)),
      if_neg Bool.false_ne_true, bind_of_eq_some (next_cons _ _ _), bind_of_eq_some hfirst,
      bind_of_eq_some hbehind.startsClause, if_neg Bool.false_ne_true,
      bind_of_eq_some (acceptSign_self "," _), if_pos rfl]
    refine (itemsBehind_rows hrows (by simp [closings]) (fun row hrow => hopen row (by simp [hrow]))
      (fun items => do sign ")"; return Expr.tuple (e :: items)) rest).trans ?_
    exact closes_sign ")" rest

theorem listDisplay_rows (h : List.Forall₂ (ReadsBefore (self .item)) rows items)
    (hopen : ∀ row ∈ rows, OpensPlain row) (rest : List Token) :
    listDisplay self (commaTokens rows ++ .sign "]" :: rest) = some (.list items, rest) := by
  cases h with
  | nil => rfl
  | @cons row e rows items hrow hrows =>
    have hbehind : Halts (commaTail rows ++ .sign "]" :: rest) :=
      halts_commaTail (by simp [haltTokens]) rows rest
    obtain ⟨t, row', rfl, ht, hfirst⟩ := readsBefore_first hrow (hopen row (by simp)) hbehind
    rw [commaTokens_cons, List.append_assoc, List.cons_append, listDisplay,
      bind_of_eq_some (acceptSign_of_not (isSign_of_opensPlain ht (by decide)) _),
      if_neg Bool.false_ne_true, bind_of_eq_some (next_cons _ _ _), bind_of_eq_some hfirst,
      displayRest, bind_of_eq_some hbehind.startsClause, if_neg Bool.false_ne_true]
    refine (moreItems_rows hrows (by simp [closings]) (fun row hrow => hopen row (by simp [hrow]))
      (fun items => do sign "]"; return Expr.list (e :: items)) rest).trans ?_
    exact closes_sign "]" rest

/-- Whether an entry of a dictionary is read from a row of tokens. -/
inductive ReadsEntry (self : Goal → Reader Expr) : List Token → Entry → Prop
  | pair {key value : List Token} {k e : Expr} (hopen : OpensPlain key)
      (hitem : ReadsBefore (self .item) key k) (hkey : ReadsBefore (self .expression) key k)
      (hvalue : ReadsBefore (self .expression) value e) :
      ReadsEntry self (key ++ .sign ":" :: value) (.pair k e)

theorem ReadsEntry.opensPlain {row : List Token} {e : Entry} (h : ReadsEntry self row e) :
    OpensPlain row := by
  cases h with
  | pair hopen hitem _ _ =>
    obtain ⟨t, key, rfl⟩ := List.exists_cons_of_ne_nil hitem.1
    exact hopen

theorem ReadsEntry.readsBefore {row : List Token} {e : Entry} (h : ReadsEntry self row e) :
    ReadsBefore (entry self) row e := by
  cases h with
  | @pair key value k e hopen _ hkey hvalue =>
    refine ⟨by simp, fun rest hrest => ?_⟩
    have hcolon : Halts (.sign ":" :: (value ++ rest)) := .sign (by simp) _
    obtain ⟨t, key', rfl, ht, hfirst⟩ := readsBefore_first hkey hopen hcolon
    rw [List.append_assoc, List.cons_append, List.cons_append, entry,
      bind_of_eq_some (acceptSign_of_not (isSign_of_opensPlain ht (by decide)) _),
      if_neg Bool.false_ne_true, bind_of_eq_some hfirst, bind_of_eq_some (sign_self ":" _),
      bind_of_eq_some (hvalue.2 rest hrest)]
    rfl

theorem opensPlain_of_readsEntry {entries : List Entry}
    (h : List.Forall₂ (ReadsEntry self) rows entries) : ∀ row ∈ rows, OpensPlain row := by
  induction h with
  | nil => exact fun _ hrow => absurd hrow List.not_mem_nil
  | cons hrow _ ih => exact List.forall_mem_cons.2 ⟨hrow.opensPlain, ih⟩

theorem startsAssignment_of_opensPlain {t : Token} (h : opensPlain t = true) (rest : List Token) :
    startsAssignment (t :: rest) = some (false, t :: rest) := by
  have hname : isName t = false := by
    cases t with
    | name n => cases h
    | _ => rfl
  have hnext := next_cons isName t rest
  rw [hname] at hnext
  exact bind_of_eq_some hnext

theorem braceDisplay_rows {entries : List Entry} (h : List.Forall₂ (ReadsEntry self) rows entries)
    (rest : List Token) :
    braceDisplay self (commaTokens rows ++ .sign "\x7d" :: rest) = some (.dict entries, rest) := by
  cases h with
  | nil => rfl
  | @cons row e rows entries hrow hrows =>
    cases hrow with
    | @pair key value k e hopen hitem _ hvalue =>
      have hbehind : Halts (commaTail rows ++ .sign "\x7d" :: rest) :=
        halts_commaTail (by simp [haltTokens]) rows rest
      have hcolon : Halts (.sign ":" :: (value ++ (commaTail rows ++ .sign "\x7d" :: rest))) :=
        .sign (by simp) _
      obtain ⟨t, key', rfl, ht, hfirst⟩ := readsBefore_first hitem hopen hcolon
      have hspread := isSign_of_opensPlain ht (s := "*") (by decide)
      have hdouble := isSign_of_opensPlain ht (s := "**") (by decide)
      rw [commaTokens_cons, List.append_assoc, List.append_assoc, List.cons_append,
        List.cons_append, braceDisplay,
        bind_of_eq_some (acceptSign_of_not (isSign_of_opensPlain ht (by decide)) _),
        if_neg Bool.false_ne_true, bind_of_eq_some (next_cons _ _ _), hdouble,
        if_neg Bool.false_ne_true, bind_of_eq_some (next_cons _ _ _), hspread,
        bind_of_eq_some (startsAssignment_of_opensPlain ht _), bind_of_eq_some hfirst]
      have hentries : List.Forall₂ (ReadsBefore (entry self)) rows entries :=
        hrows.imp fun _ _ hrow => hrow.readsBefore
      refine (bind_of_eq_some (acceptSign_self ":" _)).trans ?_
      rw [if_pos (show (!false && !false && true) = true from rfl),
        bind_of_eq_some (hvalue.2 _ hbehind), bind_of_eq_some hbehind.startsClause,
        if_neg Bool.false_ne_true, dictRest]
      refine (moreItems_rows hentries (by simp [closings]) (opensPlain_of_readsEntry hrows)
        (fun entries => do sign "\x7d"; return Expr.dict (.pair k e :: entries)) rest).trans ?_
      exact closes_sign "\x7d" rest

end Brackets

end LambdaText.Code
