import LambdaText.Datum.Literal
import Mathlib.Data.List.Forall2

/-!
# What literals denote

Which expressions denote a datum, and which have a defect that is an error of its own: a part that is
reached before any other part fails, and that is a key of a kind that cannot be a key, or an integer
too large for the double that its sum needs. Reading a literal decides both.
-/

namespace LambdaText.Datum

open LambdaText.Code LambdaText.Number

/-- An expression is a number without a sign. -/
inductive IsNumber : Expr → Datum → Prop where
  | mk (n : Numeral) : IsNumber (.constant (.number n)) (ofConstant (.number n))

/-- An expression is a number with at most one sign. -/
inductive IsSigned : Expr → Datum → Prop where
  | bare {e : Expr} {d : Datum} (h : IsNumber e d) : IsSigned e d
  | plus {e : Expr} {d : Datum} (h : IsNumber e d) : IsSigned (.unary .plus e) d
  | minus {e : Expr} {d : Datum} (h : IsNumber e d) : IsSigned (.unary .negate e) d.negated

/-- The members of a set that are given one by one, without repetitions. -/
def distinct (members : List Datum) : List Datum → List Datum
  | [] => members
  | d :: rest => distinct (if members.any (sameKey d) then members else members ++ [d]) rest

/-- The entries of a dictionary that are given one by one; of equal keys the last value counts. -/
def entered (entries pairs : List (Datum × Datum)) : List (Datum × Datum) :=
  pairs.foldl (fun out p => addEntry p.1 p.2 out) entries

mutual

inductive Denotes : Expr → Datum → Prop where
  | constant (c : Constant) : Denotes (.constant c) (ofConstant c)
  | plus {e : Expr} {d : Datum} (h : IsNumber e d) : Denotes (.unary .plus e) d
  | minus {e : Expr} {d : Datum} (h : IsNumber e d) : Denotes (.unary .negate e) d.negated
  | sum {a b : Expr} {left : Datum} {x re im : Float} (ha : IsSigned a left)
      (hx : toDouble left = .ok x) (hb : IsNumber b (.complex re im)) :
      Denotes (.binary .add a b) (.complex (x + re) (0 + im))
  | difference {a b : Expr} {left : Datum} {x re im : Float} (ha : IsSigned a left)
      (hx : toDouble left = .ok x) (hb : IsNumber b (.complex re im)) :
      Denotes (.binary .subtract a b) (.complex (x - re) (0 - im))
  | tuple {items : List Expr} {data : List Datum} (h : List.Forall₂ Denotes items data) :
      Denotes (.tuple items) (.tuple data)
  | list {items : List Expr} {data : List Datum} (h : List.Forall₂ Denotes items data) :
      Denotes (.list items) (.list data)
  | set {items : List Expr} {data : List Datum} (h : List.Forall₂ Denotes items data)
      (hkeys : ∀ d ∈ data, d.badKey? = Option.none) : Denotes (.set items) (.set (distinct [] data))
  | emptySet : Denotes (.call (.name "set") []) (.set [])
  | dict {entries : List Entry} {pairs : List (Datum × Datum)}
      (h : List.Forall₂ DenotesEntry entries pairs) (hkeys : ∀ p ∈ pairs, p.1.badKey? = Option.none) :
      Denotes (.dict entries) (.dict (entered [] pairs))

/-- An entry of a display denotes a key and a value. -/
inductive DenotesEntry : Entry → Datum × Datum → Prop where
  | pair {k e : Expr} {key value : Datum} (hk : Denotes k key) (he : Denotes e value) :
      DenotesEntry (.pair k e) (key, value)

end

section

variable (defect : LiteralDefect)

mutual

/-- An expression has a defect, which shows before any other part fails. -/
inductive HasDefect : Expr → Prop where
  | sum {a b : Expr} {i : Int} {re im : Float} (ha : IsSigned a (.int i))
      (hi : (floatOfInt i).isInf = true) (hb : IsNumber b (.complex re im))
      (h : defect = .oversized) : HasDefect (.binary .add a b)
  | difference {a b : Expr} {i : Int} {re im : Float} (ha : IsSigned a (.int i))
      (hi : (floatOfInt i).isInf = true) (hb : IsNumber b (.complex re im))
      (h : defect = .oversized) : HasDefect (.binary .subtract a b)
  | tuple {items : List Expr} (h : RowHasDefect items) : HasDefect (.tuple items)
  | list {items : List Expr} (h : RowHasDefect items) : HasDefect (.list items)
  | set {items : List Expr} (h : MembersHaveDefect items) : HasDefect (.set items)
  | dict {entries : List Entry} (h : EntriesHaveDefect entries) : HasDefect (.dict entries)

/-- The first item of a row that denotes nothing has a defect. -/
inductive RowHasDefect : List Expr → Prop where
  | here {e : Expr} {rest : List Expr} (h : HasDefect e) : RowHasDefect (e :: rest)
  | later {e : Expr} {d : Datum} {rest : List Expr} (he : Denotes e d) (h : RowHasDefect rest) :
      RowHasDefect (e :: rest)

/-- The first member of a set that cannot be one has a defect, or is of a bad kind. -/
inductive MembersHaveDefect : List Expr → Prop where
  | here {e : Expr} {rest : List Expr} (h : HasDefect e) : MembersHaveDefect (e :: rest)
  | badKey {e : Expr} {d : Datum} {kind : String} {rest : List Expr} (he : Denotes e d)
      (hkind : d.badKey? = some kind) (h : defect = .badKey kind) : MembersHaveDefect (e :: rest)
  | later {e : Expr} {d : Datum} {rest : List Expr} (he : Denotes e d)
      (hkey : d.badKey? = Option.none) (h : MembersHaveDefect rest) : MembersHaveDefect (e :: rest)

/-- The first entry of a dictionary that cannot be one has a defect, or a key of a bad kind. -/
inductive EntriesHaveDefect : List Entry → Prop where
  | key {k e : Expr} {rest : List Entry} (h : HasDefect k) : EntriesHaveDefect (.pair k e :: rest)
  | value {k e : Expr} {key : Datum} {rest : List Entry} (hk : Denotes k key) (h : HasDefect e) :
      EntriesHaveDefect (.pair k e :: rest)
  | badKey {k e : Expr} {key value : Datum} {kind : String} {rest : List Entry}
      (hk : Denotes k key) (he : Denotes e value) (hkind : key.badKey? = some kind)
      (h : defect = .badKey kind) : EntriesHaveDefect (.pair k e :: rest)
  | later {k e : Expr} {key value : Datum} {rest : List Entry} (hk : Denotes k key)
      (he : Denotes e value) (hkey : key.badKey? = Option.none) (h : EntriesHaveDefect rest) :
      EntriesHaveDefect (.pair k e :: rest)

end

end

/-! ### Numbers -/

theorem ofNumber_eq_ok_iff {e : Expr} {d : Datum} : ofNumber e = .ok d ↔ IsNumber e d := by
  constructor
  · intro h
    unfold ofNumber at h
    split at h
    · cases h
      exact .mk _
    · cases h
  · rintro ⟨n⟩
    rfl

theorem ofNumber_error {e : Expr} {defect : LiteralDefect} (h : ofNumber e = .error defect) :
    defect = .malformed := by
  unfold ofNumber at h
  split at h
  · cases h
  · exact (Except.error.inj h).symm

theorem ofSigned_eq_ok_iff {e : Expr} {d : Datum} : ofSigned e = .ok d ↔ IsSigned e d := by
  constructor
  · intro h
    unfold ofSigned at h
    split at h
    · exact .plus (ofNumber_eq_ok_iff.1 h)
    · next e =>
      cases hn : ofNumber e with
      | error => rw [hn] at h; cases h
      | ok n =>
        rw [hn] at h
        cases h
        exact .minus (ofNumber_eq_ok_iff.1 hn)
    · exact .bare (ofNumber_eq_ok_iff.1 h)
  · rintro (⟨⟨n⟩⟩ | ⟨⟨n⟩⟩ | ⟨⟨n⟩⟩) <;> rfl

theorem ofSigned_error {e : Expr} {defect : LiteralDefect} (h : ofSigned e = .error defect) :
    defect = .malformed := by
  unfold ofSigned at h
  split at h
  · exact ofNumber_error h
  · next e =>
    cases hn : ofNumber e with
    | error => rw [hn] at h; cases h; exact ofNumber_error hn
    | ok n => rw [hn] at h; cases h
  · exact ofNumber_error h

/-- Only an integer is too large for a double. -/
theorem toDouble_eq_error_iff {d : Datum} {defect : LiteralDefect} (h : defect ≠ .malformed) :
    toDouble d = .error defect ↔
      ∃ i, d = .int i ∧ (floatOfInt i).isInf = true ∧ defect = .oversized := by
  constructor
  · intro hd
    unfold toDouble at hd
    split at hd
    · next i =>
      simp only at hd
      split at hd
      · exact ⟨i, rfl, ‹_›, (Except.error.inj hd).symm⟩
      · cases hd
    · cases hd
    · exact absurd (Except.error.inj hd).symm h
  · rintro ⟨i, rfl, hi, rfl⟩
    simp only [toDouble, hi, if_true]

/-- The real and the imaginary part of a sum or difference. -/
theorem ofParts_of_parts {plus : Bool} {a b : Expr} {left : Datum} {re im : Float}
    (ha : IsSigned a left) (hb : IsNumber b (.complex re im))
    (hleft : ∀ re im, left ≠ .complex re im) :
    ofParts plus a b = (toDouble left).map fun x =>
      if plus then .complex (x + re) (0 + im) else .complex (x - re) (0 - im) := by
  rw [ofParts, ofSigned_eq_ok_iff.2 ha]
  change (ofNumber b >>= _) = _
  rw [ofNumber_eq_ok_iff.2 hb]
  cases left with
  | complex re im => exact absurd rfl (hleft re im)
  | _ => cases plus <;> cases toDouble _ <;> rfl

/-- What a sum or difference comes to, if it comes to anything. -/
theorem exists_parts {plus : Bool} {a b : Expr} {result : Except LiteralDefect Datum}
    (h : ofParts plus a b = result) (hresult : result ≠ .error .malformed) :
    ∃ left re im, IsSigned a left ∧ IsNumber b (.complex re im) ∧
      ∀ re im, left ≠ .complex re im := by
  unfold ofParts at h
  cases ha : ofSigned a with
  | error e =>
    rw [ha, ofSigned_error ha] at h
    exact absurd h.symm hresult
  | ok left =>
    cases hb : ofNumber b with
    | error e =>
      rw [ha, hb, ofNumber_error hb] at h
      exact absurd h.symm hresult
    | ok right =>
      rw [ha, hb] at h
      simp only [bind, Except.bind] at h
      split at h
      · exact absurd h.symm hresult
      · next hleft =>
        exact ⟨_, _, _, ofSigned_eq_ok_iff.1 ha, ofNumber_eq_ok_iff.1 hb,
          fun re im heq => hleft re im heq⟩
      · exact absurd h.symm hresult

/-- What a sum or difference denotes and which defect it may have. -/
theorem ofParts_eq_ok_iff {plus : Bool} {a b : Expr} {d : Datum} :
    ofParts plus a b = .ok d ↔
      ∃ left x re im, IsSigned a left ∧ toDouble left = .ok x ∧ IsNumber b (.complex re im) ∧
        d = if plus then .complex (x + re) (0 + im) else .complex (x - re) (0 - im) := by
  constructor
  · intro h
    obtain ⟨left, re, im, ha, hb, hleft⟩ := exists_parts h nofun
    rw [ofParts_of_parts ha hb hleft] at h
    cases hx : toDouble left with
    | error => rw [hx] at h; cases h
    | ok x =>
      rw [hx] at h
      exact ⟨left, x, re, im, ha, hx, hb, (Except.ok.inj h).symm⟩
  · rintro ⟨left, x, re, im, ha, hx, hb, rfl⟩
    have hleft : ∀ re im, left ≠ .complex re im := by
      rintro re im rfl
      cases hx
    rw [ofParts_of_parts ha hb hleft, hx]
    rfl

theorem ofParts_eq_error_iff {plus : Bool} {a b : Expr} {defect : LiteralDefect}
    (h : defect ≠ .malformed) :
    ofParts plus a b = .error defect ↔
      ∃ i re im, IsSigned a (.int i) ∧ (floatOfInt i).isInf = true ∧
        IsNumber b (.complex re im) ∧ defect = .oversized := by
  constructor
  · intro hparts
    obtain ⟨left, re, im, ha, hb, hleft⟩ :=
      exists_parts hparts fun heq => h (Except.error.inj heq)
    rw [ofParts_of_parts ha hb hleft] at hparts
    cases hx : toDouble left with
    | ok x => rw [hx] at hparts; cases hparts
    | error e =>
      rw [hx] at hparts
      cases hparts
      obtain ⟨i, rfl, hi, hdefect⟩ := (toDouble_eq_error_iff h).1 hx
      exact ⟨i, re, im, ha, hi, hb, hdefect⟩
  · rintro ⟨i, re, im, ha, hi, hb, rfl⟩
    have hlarge : toDouble (.int i) = .error .oversized := by simp only [toDouble, hi, if_true]
    rw [ofParts_of_parts ha hb nofun, hlarge]
    rfl

/-! ### Results -/

/-- A result says what an expression denotes or which defect it has. -/
structure Settles {α : Type} (result : Except LiteralDefect α) (denoted : α → Prop)
    (defective : LiteralDefect → Prop) : Prop where
  ok {a : α} : result = .ok a ↔ denoted a
  error {defect : LiteralDefect} (h : defect ≠ .malformed) :
    result = .error defect ↔ defective defect

theorem checkKey_eq_ok_iff {d : Datum} : checkKey d = .ok () ↔ d.badKey? = Option.none := by
  unfold checkKey
  cases d.badKey? <;> simp

theorem checkKey_eq_error_iff {d : Datum} {defect : LiteralDefect} :
    checkKey d = .error defect ↔ ∃ kind, d.badKey? = some kind ∧ defect = .badKey kind := by
  unfold checkKey
  cases d.badKey? <;> simp [eq_comm]

namespace Settles

variable {α β : Type} {result : Except LiteralDefect α} {f : α → Except LiteralDefect β}
  {denoted : α → Prop} {defective : LiteralDefect → Prop}

/-- What is read first, and then what follows. -/
theorem bind {denoted' : α → β → Prop} {defective' : α → LiteralDefect → Prop}
    (h : Settles result denoted defective) (hf : ∀ a, Settles (f a) (denoted' a) (defective' a)) :
    Settles (result >>= f) (fun b => ∃ a, denoted a ∧ denoted' a b) fun defect =>
      defective defect ∨ ∃ a, denoted a ∧ defective' a defect where
  ok {b} := by
    cases result with
    | error e =>
      refine ⟨nofun, ?_⟩
      rintro ⟨a, ha, -⟩
      cases h.ok.2 ha
    | ok a =>
      refine (hf a).ok.trans ⟨fun hb => ⟨a, h.ok.1 rfl, hb⟩, ?_⟩
      rintro ⟨a', ha, hb⟩
      cases h.ok.2 ha
      exact hb
  error {defect} hne := by
    cases result with
    | error e =>
      have hsame : (Except.error e : Except LiteralDefect β) = .error defect ↔
          (Except.error e : Except LiteralDefect α) = .error defect := by simp
      refine hsame.trans ((h.error hne).trans ⟨Or.inl, ?_⟩)
      rintro (hdefect | ⟨a, ha, -⟩)
      · exact hdefect
      · cases h.ok.2 ha
    | ok a =>
      refine ((hf a).error hne).trans ⟨fun hb => .inr ⟨a, h.ok.1 rfl, hb⟩, ?_⟩
      rintro (hdefect | ⟨a', ha, hb⟩)
      · cases (h.error hne).2 hdefect
      · cases h.ok.2 ha
        exact hb

theorem congr {denoted' : α → Prop} {defective' : LiteralDefect → Prop}
    (h : Settles result denoted defective) (hok : ∀ a, denoted a ↔ denoted' a)
    (herror : ∀ defect, defective defect ↔ defective' defect) :
    Settles result denoted' defective' :=
  ⟨h.ok.trans (hok _), fun hne => (h.error hne).trans (herror _)⟩

theorem pure (a : α) : Settles (.ok a) (· = a) fun _ => False :=
  ⟨⟨fun h => (Except.ok.inj h).symm, fun h => h ▸ rfl⟩, fun _ => ⟨nofun, False.elim⟩⟩

theorem malformed : Settles (.error .malformed : Except LiteralDefect α) (fun _ => False)
    fun _ => False :=
  ⟨⟨nofun, False.elim⟩, fun hne => ⟨fun h => hne (Except.error.inj h).symm, False.elim⟩⟩

end Settles

theorem settles_checkKey (d : Datum) :
    Settles (checkKey d) (fun _ => d.badKey? = Option.none) fun defect =>
      ∃ kind, d.badKey? = some kind ∧ defect = .badKey kind :=
  ⟨checkKey_eq_ok_iff, fun _ => checkKey_eq_error_iff⟩

theorem Settles.map {α β : Type} {result : Except LiteralDefect α} {denoted : α → Prop}
    {defective : LiteralDefect → Prop} (h : Settles result denoted defective) (f : α → β) :
    Settles (f <$> result) (fun b => ∃ a, denoted a ∧ b = f a) defective :=
  (h.bind fun a => Settles.pure (f a)).congr (fun b => by simp) fun _ => by simp

theorem settles_ofSigned (e : Expr) : Settles (ofSigned e) (IsSigned e) fun _ => False :=
  ⟨ofSigned_eq_ok_iff, fun hne => ⟨fun h => hne (ofSigned_error h), False.elim⟩⟩

theorem settles_ofParts (plus : Bool) (a b : Expr) :
    Settles (ofParts plus a b) (Denotes (.binary (if plus then .add else .subtract) a b))
      (HasDefect · (.binary (if plus then .add else .subtract) a b)) where
  ok {d} := by
    refine ofParts_eq_ok_iff.trans ?_
    cases plus
    · constructor
      · rintro ⟨left, x, re, im, ha, hx, hb, rfl⟩
        exact .difference ha hx hb
      · rintro ⟨⟩
        exact ⟨_, _, _, _, ‹_›, ‹_›, ‹_›, rfl⟩
    · constructor
      · rintro ⟨left, x, re, im, ha, hx, hb, rfl⟩
        exact .sum ha hx hb
      · rintro ⟨⟩
        exact ⟨_, _, _, _, ‹_›, ‹_›, ‹_›, rfl⟩
  error {defect} hne := by
    refine (ofParts_eq_error_iff hne).trans ?_
    cases plus
    · constructor
      · rintro ⟨i, re, im, ha, hi, hb, rfl⟩
        exact .difference ha hi hb rfl
      · rintro ⟨⟩
        exact ⟨_, _, _, ‹_›, ‹_›, ‹_›, ‹_›⟩
    · constructor
      · rintro ⟨i, re, im, ha, hi, hb, rfl⟩
        exact .sum ha hi hb rfl
      · rintro ⟨⟩
        exact ⟨_, _, _, ‹_›, ‹_›, ‹_›, ‹_›⟩

/-! ### Rows, members and entries one by one -/

theorem settles_nil {α β : Type} {R : α → β → Prop} {defective : LiteralDefect → Prop}
    (h : ∀ defect, ¬ defective defect) :
    Settles (.ok [] : Except LiteralDefect (List β)) (List.Forall₂ R []) defective :=
  (Settles.pure []).congr (fun _ => by simp) fun defect => ⟨False.elim, h defect⟩

theorem settles_row {e : Expr} {rest : List Expr}
    (he : Settles (ofExpr e) (Denotes e) (HasDefect · e))
    (hrest : Settles (ofExprs rest) (List.Forall₂ Denotes rest) (RowHasDefect · rest)) :
    Settles (ofExprs (e :: rest)) (List.Forall₂ Denotes (e :: rest))
      (RowHasDefect · (e :: rest)) := by
  refine (he.bind fun d => hrest.map (d :: ·)).congr (fun out => ⟨?_, ?_⟩) fun defect => ⟨?_, ?_⟩
  · rintro ⟨d, hd, data, hrest, rfl⟩
    exact .cons hd hrest
  · rintro (⟨⟩ | ⟨hd, hrest⟩)
    exact ⟨_, hd, _, hrest, rfl⟩
  · rintro (h | ⟨d, hd, h⟩)
    · exact .here h
    · exact .later hd h
  · rintro (h | ⟨hd, h⟩)
    · exact .inl h
    · exact .inr ⟨_, hd, h⟩

/-- What the members of a set come to, behind others. -/
def SettlesMembers (members : List Datum) (es : List Expr) : Prop :=
  Settles (ofMembers members es)
    (fun out => ∃ data, List.Forall₂ Denotes es data ∧ (∀ d ∈ data, d.badKey? = Option.none) ∧
      out = distinct members data)
    (MembersHaveDefect · es)

theorem settlesMembers_nil (members : List Datum) : SettlesMembers members [] := by
  refine (Settles.pure members).congr (fun out => ⟨?_, ?_⟩) fun defect => ⟨False.elim, nofun⟩
  · rintro rfl
    exact ⟨[], .nil, nofun, rfl⟩
  · rintro ⟨data, ⟨⟩, -, rfl⟩
    rfl

theorem settlesMembers_cons {members : List Datum} {e : Expr} {rest : List Expr}
    (he : Settles (ofExpr e) (Denotes e) (HasDefect · e))
    (hrest : ∀ d : Datum,
      SettlesMembers (if members.any (sameKey d) then members else members ++ [d]) rest) :
    SettlesMembers members (e :: rest) := by
  refine (he.bind fun d => (settles_checkKey d).bind fun _ => hrest d).congr
    (fun out => ⟨?_, ?_⟩) fun defect => ⟨?_, ?_⟩
  · rintro ⟨d, hd, -, hkey, data, hrest, hkeys, rfl⟩
    exact ⟨d :: data, .cons hd hrest, List.forall_mem_cons.2 ⟨hkey, hkeys⟩, rfl⟩
  · rintro ⟨_, ⟨⟩ | ⟨hd, hrest⟩, hkeys, rfl⟩
    rw [List.forall_mem_cons] at hkeys
    exact ⟨_, hd, (), hkeys.1, _, hrest, hkeys.2, rfl⟩
  · rintro (h | ⟨d, hd, ⟨kind, hkind, rfl⟩ | ⟨-, hkey, h⟩⟩)
    · exact .here h
    · exact .badKey hd hkind rfl
    · exact .later hd hkey h
  · rintro (h | ⟨hd, hkind, h⟩ | ⟨hd, hkey, h⟩)
    · exact .inl h
    · exact .inr ⟨_, hd, .inl ⟨_, hkind, h⟩⟩
    · exact .inr ⟨_, hd, .inr ⟨(), hkey, h⟩⟩

/-- What the entries of a dictionary come to, behind others. -/
def SettlesEntries (entries : List (Datum × Datum)) (es : List Entry) : Prop :=
  Settles (ofEntries entries es)
    (fun out => ∃ pairs, List.Forall₂ DenotesEntry es pairs ∧
      (∀ p ∈ pairs, p.1.badKey? = Option.none) ∧ out = entered entries pairs)
    (EntriesHaveDefect · es)

theorem settlesEntries_nil (entries : List (Datum × Datum)) : SettlesEntries entries [] := by
  refine (Settles.pure entries).congr (fun out => ⟨?_, ?_⟩) fun defect => ⟨False.elim, nofun⟩
  · rintro rfl
    exact ⟨[], .nil, nofun, rfl⟩
  · rintro ⟨data, ⟨⟩, -, rfl⟩
    rfl

theorem settlesEntries_pair {entries : List (Datum × Datum)} {k e : Expr} {rest : List Entry}
    (hk : Settles (ofExpr k) (Denotes k) (HasDefect · k))
    (he : Settles (ofExpr e) (Denotes e) (HasDefect · e))
    (hrest : ∀ key value : Datum, SettlesEntries (addEntry key value entries) rest) :
    SettlesEntries entries (.pair k e :: rest) := by
  refine (hk.bind fun key => he.bind fun value => (settles_checkKey key).bind fun _ =>
    hrest key value).congr (fun out => ⟨?_, ?_⟩) fun defect => ⟨?_, ?_⟩
  · rintro ⟨key, hk, value, he, -, hkey, pairs, hrest, hkeys, rfl⟩
    exact ⟨(key, value) :: pairs, .cons (.pair hk he) hrest,
      List.forall_mem_cons.2 ⟨hkey, hkeys⟩, rfl⟩
  · rintro ⟨_, ⟨⟩ | ⟨⟨hk, he⟩, hrest⟩, hkeys, rfl⟩
    rw [List.forall_mem_cons] at hkeys
    exact ⟨_, hk, _, he, (), hkeys.1, _, hrest, hkeys.2, rfl⟩
  · rintro (h | ⟨key, hk, h | ⟨value, he, ⟨kind, hkind, rfl⟩ | ⟨-, hkey, h⟩⟩⟩)
    · exact .key h
    · exact .value hk h
    · exact .badKey hk he hkind rfl
    · exact .later hk he hkey h
  · rintro (h | ⟨hk, h⟩ | ⟨hk, he, hkind, h⟩ | ⟨hk, he, hkey, h⟩)
    · exact .inl h
    · exact .inr ⟨_, hk, .inl h⟩
    · exact .inr ⟨_, hk, .inr ⟨_, he, .inl ⟨_, hkind, h⟩⟩⟩
    · exact .inr ⟨_, hk, .inr ⟨_, he, .inr ⟨(), hkey, h⟩⟩⟩

theorem settlesEntries_spread (entries : List (Datum × Datum)) (mapping : Expr)
    (rest : List Entry) : SettlesEntries entries (.spread mapping :: rest) := by
  refine Settles.malformed.congr (fun out => ⟨False.elim, ?_⟩) fun defect => ⟨False.elim, nofun⟩
  rintro ⟨_, ⟨⟩ | ⟨⟨⟩, -⟩, -⟩

/-! ### Expressions -/

theorem settles_constant (c : Constant) :
    Settles (ofExpr (.constant c)) (Denotes (.constant c)) (HasDefect · (.constant c)) := by
  refine (Settles.pure (ofConstant c)).congr (fun d => ⟨?_, ?_⟩) fun defect =>
    ⟨False.elim, nofun⟩
  · rintro rfl
    exact .constant c
  · rintro ⟨⟩
    rfl

theorem settles_emptySet :
    Settles (ofExpr (.call (.name "set") [])) (Denotes (.call (.name "set") []))
      (HasDefect · (.call (.name "set") [])) := by
  refine (Settles.pure (Datum.set [])).congr (fun d => ⟨?_, ?_⟩) fun defect =>
    ⟨False.elim, nofun⟩
  · rintro rfl
    exact .emptySet
  · rintro ⟨⟩
    rfl

theorem settles_set {items : List Expr} (h : SettlesMembers [] items) :
    Settles (ofExpr (.set items)) (Denotes (.set items)) (HasDefect · (.set items)) := by
  refine (h.map Datum.set).congr (fun d => ⟨?_, ?_⟩) fun defect => ⟨.set, ?_⟩
  · rintro ⟨_, ⟨data, hdata, hkeys, rfl⟩, rfl⟩
    exact .set hdata hkeys
  · rintro ⟨⟩
    exact ⟨_, ⟨_, ‹_›, ‹_›, rfl⟩, rfl⟩
  · rintro ⟨⟩
    assumption

theorem settles_dict {entries : List Entry} (h : SettlesEntries [] entries) :
    Settles (ofExpr (.dict entries)) (Denotes (.dict entries)) (HasDefect · (.dict entries)) := by
  refine (h.map Datum.dict).congr (fun d => ⟨?_, ?_⟩) fun defect => ⟨.dict, ?_⟩
  · rintro ⟨_, ⟨pairs, hpairs, hkeys, rfl⟩, rfl⟩
    exact .dict hpairs hkeys
  · rintro ⟨⟩
    exact ⟨_, ⟨_, ‹_›, ‹_›, rfl⟩, rfl⟩
  · rintro ⟨⟩
    assumption

theorem settles_ofExpr (e : Expr) : Settles (ofExpr e) (Denotes e) (HasDefect · e) := by
  refine ofExpr.induct (fun e => Settles (ofExpr e) (Denotes e) (HasDefect · e)) SettlesEntries
    SettlesMembers (fun es => Settles (ofExprs es) (List.Forall₂ Denotes es) (RowHasDefect · es))
    settles_constant ?tuple ?list (fun _ => settles_set) (fun _ => settles_dict) settles_emptySet
    ?sum ?difference ?other settlesMembers_nil (fun _ _ _ => settlesMembers_cons)
    (settles_nil nofun) (fun _ _ => settles_row) settlesEntries_nil
    (fun _ _ _ _ => settlesEntries_pair) settlesEntries_spread e
  case tuple =>
    intro items ih
    refine (ih.map Datum.tuple).congr (fun d => ⟨?_, ?_⟩) fun defect => ⟨.tuple, ?_⟩
    · rintro ⟨data, h, rfl⟩
      exact .tuple h
    · rintro ⟨⟩
      exact ⟨_, ‹_›, rfl⟩
    · rintro ⟨⟩
      assumption
  case list =>
    intro items ih
    refine (ih.map Datum.list).congr (fun d => ⟨?_, ?_⟩) fun defect => ⟨.list, ?_⟩
    · rintro ⟨data, h, rfl⟩
      exact .list h
    · rintro ⟨⟩
      exact ⟨_, ‹_›, rfl⟩
    · rintro ⟨⟩
      assumption
  case sum =>
    intro a b
    exact settles_ofParts true a b
  case difference =>
    intro a b
    exact settles_ofParts false a b
  case other =>
    intro e hconstant htuple hlist hset hdict hempty hsum hdifference
    have hsigned : ofExpr e = ofSigned e := by
      rw [ofExpr] <;> assumption
    rw [hsigned]
    refine (settles_ofSigned e).congr (fun d => ⟨?_, fun h => ?_⟩) fun defect =>
      ⟨False.elim, fun h => ?_⟩
    · rintro (⟨⟨n⟩⟩ | h | h)
      · exact absurd rfl (hconstant _)
      · exact .plus h
      · exact .minus h
    · cases h with
      | constant c => exact absurd rfl (hconstant _)
      | plus h => exact .plus h
      | minus h => exact .minus h
      | sum => exact absurd rfl (hsum _ _)
      | difference => exact absurd rfl (hdifference _ _)
      | tuple => exact absurd rfl (htuple _)
      | list => exact absurd rfl (hlist _)
      | set => exact absurd rfl (hset _)
      | emptySet => exact absurd rfl hempty
      | dict => exact absurd rfl (hdict _)
    · cases h with
      | sum => exact hsum _ _ rfl
      | difference => exact hdifference _ _ rfl
      | tuple => exact htuple _ rfl
      | list => exact hlist _ rfl
      | set => exact hset _ rfl
      | dict => exact hdict _ rfl

mutual

theorem HasDefect.ne_malformed {defect : LiteralDefect} {e : Expr} (h : HasDefect defect e) :
    defect ≠ .malformed := by
  cases h with
  | sum _ _ _ h => exact h ▸ nofun
  | difference _ _ _ h => exact h ▸ nofun
  | tuple h => exact h.ne_malformed
  | list h => exact h.ne_malformed
  | set h => exact h.ne_malformed
  | dict h => exact h.ne_malformed

theorem RowHasDefect.ne_malformed {defect : LiteralDefect} {es : List Expr}
    (h : RowHasDefect defect es) : defect ≠ .malformed := by
  cases h with
  | here h => exact h.ne_malformed
  | later _ h => exact h.ne_malformed

theorem MembersHaveDefect.ne_malformed {defect : LiteralDefect} {es : List Expr}
    (h : MembersHaveDefect defect es) : defect ≠ .malformed := by
  cases h with
  | here h => exact h.ne_malformed
  | badKey _ _ h => exact h ▸ nofun
  | later _ _ h => exact h.ne_malformed

theorem EntriesHaveDefect.ne_malformed {defect : LiteralDefect} {es : List Entry}
    (h : EntriesHaveDefect defect es) : defect ≠ .malformed := by
  cases h with
  | key h => exact h.ne_malformed
  | value _ h => exact h.ne_malformed
  | badKey _ _ _ h => exact h ▸ nofun
  | later _ _ _ h => exact h.ne_malformed

end

end LambdaText.Datum
