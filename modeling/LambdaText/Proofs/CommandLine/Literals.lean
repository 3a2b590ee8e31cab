import LambdaText.CommandLine.Basic
import LambdaText.Proofs.Datum.Denotation
import LambdaText.Proofs.Datum.Values

/-!
# Arguments of the command

An argument stands for the value that it denotes as a literal, and else for itself. It is refused
in two cases only, for which reading literals has an error of its own: a display with a key that
cannot be a key, and a sum of an integer that no double can hold.
-/

namespace LambdaText

open LambdaText.Code LambdaText.Number

/-! ### Values that hold data -/

mutual

/-- Whether all texts of a datum are made of characters. What a text with surrogates does as a value
is left open. -/
def Datum.ofCharacters : Datum → Bool
  | .points _ => false
  | .tuple items | .list items | .set items => allOfCharacters items
  | .dict entries => entriesOfCharacters entries
  | _ => true

def allOfCharacters : List Datum → Bool
  | [] => true
  | d :: rest => d.ofCharacters && allOfCharacters rest

def entriesOfCharacters : List (Datum × Datum) → Bool
  | [] => true
  | (k, d) :: rest => k.ofCharacters && d.ofCharacters && entriesOfCharacters rest

end

mutual

/-- A value holds what a datum says, where these are the cells. -/
inductive Holds (cells : Array Cell) : Value → Datum → Prop where
  | none : Holds cells .none .none
  | foreign : Holds cells .none .foreign
  | bool (b : Bool) : Holds cells (.bool b) (.bool b)
  | int (i : Int) : Holds cells (.int i) (.int i)
  | float (x : Float) : Holds cells (.float x) (.float x)
  | complex (re im : Float) : Holds cells (.complex re im) (.complex re im)
  | text (s : String) : Holds cells (.text s) (.text s)
  | bytes (b : List UInt8) : Holds cells (.bytes b) (.bytes b)
  | ellipsis : Holds cells .ellipsis .ellipsis
  | tuple {values : List Value} {data : List Datum} (h : HoldAll cells values data) :
      Holds cells (.tuple values) (.tuple data)
  | list {a : Nat} {values : List Value} {data : List Datum}
      (ha : cells[a]? = some (.list values.toArray)) (h : HoldAll cells values data) :
      Holds cells (.list a) (.list data)
  | set {a : Nat} {values : List Value} {data : List Datum}
      (ha : cells[a]? = some (.set values.toArray)) (h : HoldAll cells values data) :
      Holds cells (.set a) (.set data)
  | dict {a : Nat} {entries : List (Value × Value)} {pairs : List (Datum × Datum)}
      (ha : cells[a]? = some (.dict entries.toArray)) (h : HoldEntries cells entries pairs) :
      Holds cells (.dict a) (.dict pairs)

inductive HoldAll (cells : Array Cell) : List Value → List Datum → Prop where
  | nil : HoldAll cells [] []
  | cons {v : Value} {d : Datum} {values : List Value} {data : List Datum} (hv : Holds cells v d)
      (h : HoldAll cells values data) : HoldAll cells (v :: values) (d :: data)

inductive HoldEntries (cells : Array Cell) : List (Value × Value) → List (Datum × Datum) → Prop where
  | nil : HoldEntries cells [] []
  | cons {key v : Value} {k d : Datum} {entries : List (Value × Value)}
      {pairs : List (Datum × Datum)} (hkey : Holds cells key k) (hv : Holds cells v d)
      (h : HoldEntries cells entries pairs) :
      HoldEntries cells ((key, v) :: entries) ((k, d) :: pairs)

end

theorem getElem?_more {cells : Array Cell} {a : Nat} {c : Cell} (h : cells[a]? = some c)
    (more : Array Cell) : (cells ++ more)[a]? = some c := by
  rw [Array.getElem?_append_left (Array.getElem?_eq_some_iff.1 h).1, h]

mutual

/-- Further cells change nothing. -/
theorem Holds.more {cells : Array Cell} {v : Value} {d : Datum} (h : Holds cells v d)
    (more : Array Cell) : Holds (cells ++ more) v d := by
  cases h with
  | none => exact .none
  | foreign => exact .foreign
  | bool b => exact .bool b
  | int i => exact .int i
  | float x => exact .float x
  | complex re im => exact .complex re im
  | text s => exact .text s
  | bytes b => exact .bytes b
  | ellipsis => exact .ellipsis
  | tuple h => exact .tuple (h.more more)
  | list ha h => exact .list (getElem?_more ha more) (h.more more)
  | set ha h => exact .set (getElem?_more ha more) (h.more more)
  | dict ha h => exact .dict (getElem?_more ha more) (h.more more)

theorem HoldAll.more {cells : Array Cell} {values : List Value} {data : List Datum}
    (h : HoldAll cells values data) (more : Array Cell) : HoldAll (cells ++ more) values data := by
  cases h with
  | nil => exact .nil
  | cons hv h => exact .cons (hv.more more) (h.more more)

theorem HoldEntries.more {cells : Array Cell} {entries : List (Value × Value)}
    {pairs : List (Datum × Datum)} (h : HoldEntries cells entries pairs) (more : Array Cell) :
    HoldEntries (cells ++ more) entries pairs := by
  cases h with
  | nil => exact .nil
  | cons hkey hv h => exact .cons (hkey.more more) (hv.more more) (h.more more)

end

theorem holds_new {cells : Array Cell} (c : Cell) : (cells.push c)[cells.size]? = some c :=
  Array.getElem?_push_size

mutual

theorem makesFrom_value (d : Datum) (cells : Array Cell) (h : d.ofCharacters = true) :
    MakesFrom d.value cells fun cells v => Holds cells v d := by
  cases d with
  | points _ => exact absurd h Bool.false_ne_true
  | none => exact makesFrom_pure .none
  | foreign => exact makesFrom_pure .foreign
  | bool b => exact makesFrom_pure (.bool b)
  | int i => exact makesFrom_pure (.int i)
  | float x => exact makesFrom_pure (.float x)
  | complex re im => exact makesFrom_pure (.complex re im)
  | text s => exact makesFrom_pure (.text s)
  | bytes b => exact makesFrom_pure (.bytes b)
  | ellipsis => exact makesFrom_pure .ellipsis
  | tuple items =>
    exact (makesFrom_valuesOf_data items cells h).bind fun _ _ h => makesFrom_pure (.tuple h)
  | list items =>
    exact (makesFrom_valuesOf_data items cells h).bind fun cells values h =>
      makesFrom_alloc (.list (holds_new _) (Array.push_eq_append ▸ h.more _))
  | set items =>
    exact (makesFrom_valuesOf_data items cells h).bind fun cells values h =>
      makesFrom_alloc (.set (holds_new _) (Array.push_eq_append ▸ h.more _))
  | dict entries =>
    exact (makesFrom_entriesOf_data entries cells h).bind fun cells values h =>
      makesFrom_alloc (.dict (holds_new _) (Array.push_eq_append ▸ h.more _))

theorem makesFrom_valuesOf_data (items : List Datum) (cells : Array Cell)
    (h : allOfCharacters items = true) :
    MakesFrom (valuesOf items) cells fun cells values => HoldAll cells values items := by
  cases items with
  | nil => exact makesFrom_pure .nil
  | cons d items =>
    obtain ⟨hd, hitems⟩ := Bool.and_eq_true_iff.1 h
    refine (makesFrom_value d cells hd).bind fun cells v hv => ?_
    have hrest : MakesFrom (valuesOf items) cells fun cells values =>
        Holds cells v d ∧ HoldAll cells values items :=
      (makesFrom_valuesOf_data items cells hitems).mono fun more _ hvalues =>
        ⟨hv.more more, hvalues⟩
    exact hrest.bind fun cells values h => makesFrom_pure (.cons h.1 h.2)

theorem makesFrom_entriesOf_data (entries : List (Datum × Datum)) (cells : Array Cell)
    (h : entriesOfCharacters entries = true) :
    MakesFrom (entriesOf entries) cells fun cells values => HoldEntries cells values entries := by
  match entries with
  | [] => exact makesFrom_pure .nil
  | (k, d) :: entries =>
    obtain ⟨hboth, hentries⟩ := Bool.and_eq_true_iff.1 h
    obtain ⟨hk, hd⟩ := Bool.and_eq_true_iff.1 hboth
    have hentry : MakesFrom (entryOf (k, d)) cells fun cells e =>
        Holds cells e.1 k ∧ Holds cells e.2 d := by
      refine (makesFrom_value k cells hk).bind fun cells key hkey => ?_
      have hvalue : MakesFrom d.value cells fun cells v => Holds cells key k ∧ Holds cells v d :=
        (makesFrom_value d cells hd).mono fun more _ hv => ⟨hkey.more more, hv⟩
      exact hvalue.bind fun cells v h => makesFrom_pure h
    refine hentry.bind fun cells e he => ?_
    have hrest : MakesFrom (entriesOf entries) cells fun cells values =>
        (Holds cells e.1 k ∧ Holds cells e.2 d) ∧ HoldEntries cells values entries :=
      (makesFrom_entriesOf_data entries cells hentries).mono fun more _ hvalues =>
        ⟨⟨he.1.more more, he.2.more more⟩, hvalues⟩
    exact hrest.bind fun cells values h => makesFrom_pure (.cons h.1.1 h.1.2 h.2)

end

namespace CommandLine

/-! ### Reading an argument -/

/-- An argument is the text of an expression; blanks in front do not count. -/
def Spells (text : String) (e : Expr) : Prop :=
  Char.ofNat 0 ∉ text.toList ∧ Expr.read? (text.toList.dropWhile Datum.isIndent) = some e

theorem Spells.ofLiteral {text : String} {e : Expr} (h : Spells text e) :
    Datum.ofLiteral text.toList = Datum.ofExpr e := by
  have hnull : text.toList.contains (Char.ofNat 0) = false := by
    rw [List.contains_eq_mem, decide_eq_false_iff_not]
    exact h.1
  rw [Datum.ofLiteral, hnull, if_neg Bool.false_ne_true, h.2]

theorem ofLiteral_of_not_spells {text : String} (h : ∀ e, ¬ Spells text e) :
    Datum.ofLiteral text.toList = .error .malformed := by
  unfold Datum.ofLiteral
  split
  · rfl
  · next hnull =>
    split
    · next e he => exact absurd ⟨fun hmem => hnull (by simpa using hmem), he⟩ (h e)
    · rfl

/-- The class of the error of a defect. -/
def defectKind : LiteralDefect → String
  | .badKey _ => "TypeError"
  | .oversized => "OverflowError"
  | .malformed => "ValueError"

theorem ends_readArgument_datum {text : String} {d : Datum}
    (h : Datum.ofLiteral text.toList = .ok d) (s : State) :
    (readArgument text).ends s = d.value.ends s := by
  rw [readArgument, Datum.ofArgument, h]

theorem ends_readArgument_defect {text : String} {defect : LiteralDefect}
    (h : Datum.ofLiteral text.toList = .error defect) (hdefect : defect ≠ .malformed) (s : State) :
    ∃ message, (readArgument text).ends s =
      some (.error (.error (defectKind defect) [.text message] none), s) := by
  rw [readArgument, Datum.ofArgument, h]
  cases defect with
  | malformed => exact absurd rfl hdefect
  | badKey kind => exact ⟨_, rfl⟩
  | oversized => exact ⟨_, rfl⟩

theorem ends_readArgument_text {text : String}
    (h : Datum.ofLiteral text.toList = .error .malformed) (s : State) :
    (readArgument text).ends s = some (.ok (.text text), s) := by
  rw [readArgument, Datum.ofArgument, h]
  rfl

/-- An argument stands for the datum that it denotes, and for itself if it is no literal, whatever
it is then; a literal with a defect is refused. These are all cases, so an argument is refused
exactly if the literal that it spells has a defect. -/
theorem argument_read (text : String) (s : State) :
    (∀ e d, Spells text e → Datum.Denotes e d →
      Datum.ofArgument text = .ok d ∧ (readArgument text).ends s = d.value.ends s ∧
      (d.ofCharacters = true → ∃ v more,
        (readArgument text).ends s = some (.ok v, { s with cells := s.cells ++ more }) ∧
        Holds (s.cells ++ more) v d)) ∧
    (∀ e defect, Spells text e → Datum.HasDefect defect e → defect ≠ .malformed ∧
      ∃ message, (readArgument text).ends s =
        some (.error (.error (defectKind defect) [.text message] none), s)) ∧
    ((∀ e, Spells text e → (∀ d, ¬ Datum.Denotes e d) ∧ ∀ defect, ¬ Datum.HasDefect defect e) →
      (readArgument text).ends s = some (.ok (.text text), s)) := by
  refine ⟨fun e d hspells hd => ?_, fun e defect hspells hdefect => ?_, fun hneither => ?_⟩
  · have hread : Datum.ofLiteral text.toList = .ok d :=
      hspells.ofLiteral.trans ((Datum.settles_ofExpr e).ok.2 hd)
    have hends := ends_readArgument_datum hread s
    refine ⟨by rw [Datum.ofArgument, hread], hends, fun hd => ?_⟩
    obtain ⟨v, more, hend, hv⟩ := makesFrom_value d s.cells hd
    exact ⟨v, more, hends.trans (hend s rfl), hv⟩
  · have hne := hdefect.ne_malformed
    have hread : Datum.ofLiteral text.toList = .error defect :=
      hspells.ofLiteral.trans (((Datum.settles_ofExpr e).error hne).2 hdefect)
    exact ⟨hne, ends_readArgument_defect hread hne s⟩
  · refine ends_readArgument_text ?_ s
    by_cases hspells : ∃ e, Spells text e
    · obtain ⟨e, he⟩ := hspells
      obtain ⟨hdenotes, hdefect⟩ := hneither e he
      rw [he.ofLiteral]
      cases hresult : Datum.ofExpr e with
      | ok d => exact absurd ((Datum.settles_ofExpr e).ok.1 hresult) (hdenotes d)
      | error defect =>
        by_contra hne
        have hother : defect ≠ .malformed := fun heq => hne (heq ▸ rfl)
        exact hdefect _ (((Datum.settles_ofExpr e).error hother).1 hresult)
    · exact ofLiteral_of_not_spells fun e he => hspells ⟨e, he⟩

/-- A list that holds a set, behind a blank. -/
def nestedArgument : String := String.ofList [' ', '[', '{', '1', '}', ']']

def nestedLiteral : Expr := .list [.set [.constant (.number (.int 1))]]

/-- A display whose member cannot be a member. -/
def unhashableArgument : String := String.ofList ['{', '[', ']', '}']

def unhashableLiteral : Expr := .set [.list []]

set_option maxRecDepth 4000 in
theorem spells_nested : Spells nestedArgument nestedLiteral := ⟨by decide, rfl⟩

theorem spells_unhashable : Spells unhashableArgument unhashableLiteral := ⟨by decide, rfl⟩

/-- A nested literal behind a blank, and one that is refused. -/
theorem argument_read_nested :
    Spells nestedArgument nestedLiteral ∧
    Datum.Denotes nestedLiteral (.list [.set [.int 1]]) ∧
    (∃ v more, (readArgument nestedArgument).ends {} =
        some (.ok v, ({ cells := #[] ++ more } : State)) ∧
      Holds (#[] ++ more) v (.list [.set [.int 1]])) ∧
    Spells unhashableArgument unhashableLiteral ∧
    Datum.HasDefect (.badKey "list") unhashableLiteral ∧
    ∃ message, (readArgument unhashableArgument).ends {} =
      some (.error (.error "TypeError" [.text message] none), {}) := by
  have hset : Datum.Denotes (.set [.constant (.number (.int 1))]) (.set [.int 1]) :=
    .set (.cons (.constant _) .nil) (by simp [Datum.ofConstant, Datum.badKey?])
  have hlist : Datum.Denotes nestedLiteral (.list [.set [.int 1]]) :=
    .list (.cons hset .nil)
  have hdefect : Datum.HasDefect (.badKey "list") unhashableLiteral :=
    .set (.badKey (.list .nil) rfl rfl)
  obtain ⟨-, -, hvalue⟩ := (argument_read nestedArgument {}).1 _ _ spells_nested hlist
  exact ⟨spells_nested, hlist, hvalue rfl,
    spells_unhashable, hdefect,
    ((argument_read unhashableArgument {}).2.1 _ _ spells_unhashable hdefect).2⟩

/-- An argument that looks like a display and denotes nothing is refused instead of kept. -/
theorem unhashable_argument_refused :
    ∃ message, (readArgument unhashableArgument).ends {} =
      some (.error (.error "TypeError" [.text message] none), {}) := by
  have hread : Datum.ofLiteral unhashableArgument.toList = .error (.badKey "list") := by
    rw [spells_unhashable.ofLiteral]
    rfl
  exact ends_readArgument_defect hread nofun {}

end CommandLine

end LambdaText
