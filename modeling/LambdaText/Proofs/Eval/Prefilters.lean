import LambdaText.Proofs.Eval.Composition

/-!
# Functions behind filters

A function behind a filter is called with its arguments but for a window of them, which the filter
replaces. The bounds of the window are read as those of a slice, once where the window is taken and
once where it is replaced; both times they come to the same two positions.
-/

namespace LambdaText

open LambdaText.Code LambdaText.Function

/-! ### Windows -/

/-- Where a bound stands in a row of a size: a negative one counts from the end, and one beyond the
row is moved to the nearest end of it. -/
def boundAt (size : Nat) (bound : Int) : Nat :=
  min (if bound < 0 then size + bound else bound).toNat size

/-- Where a bound stands that may be absent, and then is the end. -/
def endAt (size : Nat) : Option Int → Nat
  | none => size
  | some bound => boundAt size bound

theorem clampBound_eq_boundAt (size : Nat) (bound : Int) :
    clampBound size 0 size bound = boundAt size bound := by
  unfold clampBound boundAt
  grind

theorem sliceBounds_one (size : Nat) (first : Int) (last : Option Int) :
    sliceBounds size (some first) last 1 = (↑(boundAt size first), ↑(endAt size last)) := by
  cases last <;> simp [sliceBounds, clampBound_eq_boundAt, endAt]

/-- What is taken ends no earlier than it starts. -/
theorem window_eq_extract {α : Type} (items : List α) (first : Int) (last : Option Int) :
    window items (some first) last = items.extract (boundAt items.length first)
      (max (boundAt items.length first) (endAt items.length last)) := by
  rw [window, sliceBounds_one]
  simp only [Int.toNat_natCast, List.extract_eq_take_drop, List.drop_take]
  congr 1
  omega

theorem replaceWindow_eq {α : Type} (items : List α) (first : Int) (last : Option Int)
    (part : List α) :
    replaceWindow items (some first) last part =
      items.take (boundAt items.length first) ++ part ++
        items.drop (max (boundAt items.length first) (endAt items.length last)) := by
  have hmax (a b : Nat) : (max (a : Int) b).toNat = max a b := by omega
  rw [replaceWindow, sliceBounds_one]
  simp only [hmax, Int.toNat_natCast]

/-- A row is what is before a window, the window, and what is behind it. -/
theorem take_extract_drop {α : Type} (items : List α) {a b : Nat} (h : a ≤ b) :
    items.take a ++ items.extract a b ++ items.drop b = items := by
  rw [List.extract_eq_take_drop, List.append_assoc]
  conv_rhs => rw [← List.take_append_drop a items, ← List.take_append_drop (b - a) (items.drop a)]
  rw [List.drop_drop, Nat.add_sub_cancel' h]

theorem position?_eq_boundAt {size : Nat} {index : Int} (hlow : -size ≤ index)
    (hhigh : index < size) : position? size index = some (boundAt size index) := by
  have hin : 0 ≤ (if index < 0 then index + size else index) ∧
      (if index < 0 then index + size else index) < size := by
    split <;> omega
  rw [position?, if_pos hin, boundAt]
  grind

theorem position?_eq_none {size : Nat} {index : Int} (h : ¬(-size ≤ index ∧ index < size)) :
    position? size index = none := by
  rw [position?, if_neg]
  split <;> omega

theorem boundAt_lt {size : Nat} {index : Int} (hlow : -size ≤ index) (hhigh : index < size) :
    boundAt size index < size := by
  unfold boundAt
  grind

/-- The window from an index to the next one holds one position; from the last one, counted from
the end, the next one is the first. -/
theorem boundAt_add_one {size : Nat} {index : Int} (hlow : -size ≤ index) (hhigh : index < size)
    (hne : index ≠ -1) : boundAt size (index + 1) = boundAt size index + 1 := by
  unfold boundAt
  grind

theorem boundAt_neg_one (size : Nat) : boundAt size (-1) = size - 1 := by
  unfold boundAt
  grind

/-! ### Calls behind filters -/

/-- The values that a result stands for among arguments: those of a list or a tuple, and of
everything else just itself. -/
def standsFor (s : State) : Value → List Value
  | .list address => match s.cells[address]? with
    | some (.list items) => items.toList
    | _ => []
  | .tuple items => items
  | v => [v]

/-- Calls a filter with a window of arguments, and then a function with what the result stands for
in place of the window. -/
def callWindowed (m : Machine) (f filter : Value) (front window back : List Value) : Run Value := do
  let v ← callPlain m filter window
  callPlain m f (front ++ standsFor (← get) v ++ back)

/-- Calls a filter with one argument, and then a function with the result in its place. -/
def callReplaced (m : Machine) (f filter : Value) (front : List Value) (x : Value)
    (back : List Value) : Run Value := do
  let v ← callPlain m filter [x]
  callPlain m f (front ++ v :: back)

def boundValue : Option Int → Value
  | none => .none
  | some bound => .int bound

theorem sliceParts_bounds (first : Int) (last : Option Int) :
    sliceParts (.int first) (boundValue last) .none = pure (some first, last, 1) := by
  cases last <;> rfl

theorem ends_listItems (address : Nat) (s : State) :
    (Run.listItems address).ends s = some (.ok (standsFor s (.list address)).toArray, s) := by
  rw [Run.listItems, Run.ends_bind_of_ok (Run.ends_cell address s), standsFor]
  cases s.cells[address]? with
  | none => rfl
  | some c => cases c <;> simp

theorem ends_filterWindow (m : Machine) (f filter : Value) (first : Int) (last : Option Int)
    (arguments : List Value) (s : State) :
    (filterWindow m f filter (.int first) (boundValue last) arguments).ends s =
      (callWindowed m f filter (arguments.take (boundAt arguments.length first))
        (arguments.extract (boundAt arguments.length first)
          (max (boundAt arguments.length first) (endAt arguments.length last)))
        (arguments.drop
          (max (boundAt arguments.length first) (endAt arguments.length last)))).ends s := by
  rw [filterWindow, sliceParts_bounds, pure_bind]
  simp only [window_eq_extract, replaceWindow_eq]
  rw [callWindowed]
  refine Run.ends_bind_congr fun v t _ => ?_
  rw [Run.ends_get_bind]
  cases v with
  | list address =>
    dsimp only
    rw [Run.ends_bind_of_ok (ends_listItems address t), pure_bind]
  | _ => rfl

theorem ends_filterArgument (m : Machine) (f filter : Value) {index : Int} {arguments : List Value}
    {p : Nat} (hp : position? arguments.length index = some p) (hlt : p < arguments.length)
    (s : State) :
    (filterArgument m f (.int index) filter arguments).ends s =
      (callReplaced m f filter (arguments.take p) arguments[p] (arguments.drop (p + 1))).ends s := by
  have hrow : rowPosition "list" arguments.length (.int index) = pure p := by
    simp only [rowPosition, Value.index?, hp]
  simp only [filterArgument, hrow, pure_bind, callReplaced, List.getElem?_eq_getElem hlt,
    Option.getD_some, List.set_eq_take_append_cons_drop, if_pos hlt]

theorem filterArgument_out_of_range (m : Machine) (f filter : Value) {index : Int}
    {arguments : List Value} (h : position? arguments.length index = none) :
    filterArgument m f (.int index) filter arguments =
      Run.raise "IndexError" "list index out of range" := by
  have hrow : rowPosition "list" arguments.length (.int index) =
      Run.raise "IndexError" "list index out of range" := by
    simp only [rowPosition, Value.index?, h]
    rfl
  simp only [filterArgument, hrow]
  rfl

/-! ### Functions that call behind filters -/

/-- Calling a value is calling a function behind a filter, which gets the arguments from one bound
to another. -/
def TouchesWindow (c f filter : Value) (first : Int) (last : Option Int) : Prop :=
  ∀ (level : Nat) (arguments : List Value) (s : State),
    let a := boundAt arguments.length first
    let b := max a (endAt arguments.length last)
    ((machineAt (level + 1)).call c arguments []).ends s =
      (callWindowed (machineAt level) f filter (arguments.take a) (arguments.extract a b)
        (arguments.drop b)).ends s

/-- Calling a value is calling a function behind a filter, which gets the argument at an index;
where there is none, nothing is called. -/
def TouchesIndex (c f filter : Value) (index : Int) : Prop :=
  ∀ (level : Nat) (arguments : List Value) (s : State),
    (∀ (hlow : -arguments.length ≤ index) (hhigh : index < arguments.length),
      let p := boundAt arguments.length index
      ((machineAt (level + 1)).call c arguments []).ends s =
        (callReplaced (machineAt level) f filter (arguments.take p)
          (arguments.get ⟨p, boundAt_lt hlow hhigh⟩) (arguments.drop (p + 1))).ends s) ∧
    (¬(-arguments.length ≤ index ∧ index < arguments.length) →
      ((machineAt (level + 1)).call c arguments []).ends s =
        some (.error (.error "IndexError" [.text "list index out of range"] none), s))

theorem touchesWindow_filterSlice (serial : Nat) (f filter : Value) (first : Int)
    (last : Option Int) :
    TouchesWindow (.combined serial (.filterSlice f filter (.int first) (boundValue last)))
      f filter first last := by
  intro level arguments s
  change (callCombined (machineAt level) (.filterSlice f filter _ _) arguments []).ends s = _
  rw [callCombined, shareCombined_positions rfl rfl, pure_bind]
  exact ends_filterWindow _ f filter first last arguments s

theorem touchesIndex_filterAt (serial : Nat) (f filter : Value) (index : Int) :
    TouchesIndex (.combined serial (.filterAt f (.int index) filter)) f filter index := by
  intro level arguments s
  have hcall : ((machineAt (level + 1)).call
      (.combined serial (.filterAt f (.int index) filter)) arguments []).ends s =
      (filterArgument (machineAt level) f (.int index) filter arguments).ends s := by
    change (callCombined (machineAt level) (.filterAt f _ filter) arguments []).ends s = _
    rw [callCombined, shareCombined_positions rfl rfl, pure_bind]
  refine ⟨fun hlow hhigh => ?_, fun hout => ?_⟩
  · rw [hcall]
    exact ends_filterArgument _ f filter (position?_eq_boundAt hlow hhigh) (boundAt_lt hlow hhigh) s
  · rw [hcall, filterArgument_out_of_range _ f filter (position?_eq_none hout)]
    rfl

/-- A filter whose result stands for what its arguments are changes nothing. -/
theorem TouchesWindow.unchanged {c f filter : Value} {first : Int} {last : Option Int}
    (h : TouchesWindow c f filter first last) {level : Nat} {arguments : List Value} {s t : State}
    {v : Value} {window : List Value}
    (hwindow : window = arguments.extract (boundAt arguments.length first)
      (max (boundAt arguments.length first) (endAt arguments.length last)))
    (hv : (callPlain (machineAt level) filter window).ends s = some (.ok v, t))
    (hstands : standsFor t v = window) :
    ((machineAt (level + 1)).call c arguments []).ends s =
      (callPlain (machineAt level) f arguments).ends t := by
  rw [h level arguments s, ← hwindow, callWindowed, Run.ends_bind_of_ok hv, Run.ends_get_bind,
    hstands, hwindow, take_extract_drop arguments (Nat.le_max_left _ _)]

/-- Whether the result of one filter stands for just the result of another one. Both fail alike,
and may leave different states. -/
def GivesJust (m : Machine) (g h x : Value) (s : State) : Prop :=
  match (callPlain m g [x]).ends s with
  | none => (callPlain m h [x]).ends s = none
  | some (.error e, _) => ∃ t, (callPlain m h [x]).ends s = some (.error e, t)
  | some (.ok v, _) => ∃ w t, (callPlain m h [x]).ends s = some (.ok w, t) ∧ standsFor t w = [v]

/-- Whether two runs are calls of one function with the same arguments, of which one is the result
of a filter, each in the state that its filter leaves. They fail alike where the filters do. -/
def CallsAlike (m : Machine) (f g h : Value) (front : List Value) (x : Value) (back : List Value)
    (s : State) (r r' : Run Value) : Prop :=
  match (callPlain m g [x]).ends s with
  | none => r.ends s = none ∧ r'.ends s = none
  | some (.error e, t) => r.ends s = some (.error e, t) ∧ ∃ t', r'.ends s = some (.error e, t')
  | some (.ok v, t) => ∃ w t', (callPlain m h [x]).ends s = some (.ok w, t') ∧
    r.ends s = (callPlain m f (front ++ v :: back)).ends t ∧
    r'.ends s = (callPlain m f (front ++ v :: back)).ends t'

theorem callsAlike_of_givesJust {m : Machine} {f g h x : Value} {s : State}
    (hgives : GivesJust m g h x s) (front back : List Value) {r r' : Run Value}
    (hr : r.ends s = (callReplaced m f g front x back).ends s)
    (hr' : r'.ends s = (callWindowed m f h front [x] back).ends s) :
    CallsAlike m f g h front x back s r r' := by
  unfold CallsAlike
  unfold GivesJust at hgives
  rw [hr, hr', callReplaced, callWindowed, Run.ends_bind, Run.ends_bind]
  split at hgives
  · next hg => simp only [hg, hgives, and_self]
  · next e t hg =>
    obtain ⟨t', hh⟩ := hgives
    simp only [hg, hh, true_and]
    exact ⟨t', rfl⟩
  · next v t hg =>
    obtain ⟨w, t', hh, hstands⟩ := hgives
    simp only [hg, hh, Run.ends_get_bind, hstands]
    exact ⟨w, t', rfl, trivial, by rw [List.append_assoc, List.singleton_append]⟩

/-- From an index to the next one there is one argument, unless the index is that of the last one
counted from the end. -/
theorem TouchesIndex.callsAlike {c d f g h : Value} {index : Int} (hc : TouchesIndex c f g index)
    (hd : TouchesWindow d f h index (some (index + 1))) (hne : index ≠ -1) {level : Nat}
    {arguments : List Value} (hlow : -arguments.length ≤ index) (hhigh : index < arguments.length)
    {s : State} {x : Value} (hx : arguments[boundAt arguments.length index]? = some x)
    (hgives : GivesJust (machineAt level) g h x s) :
    CallsAlike (machineAt level) f g h (arguments.take (boundAt arguments.length index)) x
      (arguments.drop (boundAt arguments.length index + 1)) s
      ((machineAt (level + 1)).call c arguments []) ((machineAt (level + 1)).call d arguments []) := by
  have hlt := boundAt_lt hlow hhigh
  obtain rfl : arguments[boundAt arguments.length index] = x :=
    Option.some.inj ((List.getElem?_eq_getElem hlt).symm.trans hx)
  have hend : max (boundAt arguments.length index) (endAt arguments.length (some (index + 1))) =
      boundAt arguments.length index + 1 := by
    rw [endAt, boundAt_add_one hlow hhigh hne]
    omega
  have hwindow : arguments.extract (boundAt arguments.length index)
      (boundAt arguments.length index + 1) = [arguments[boundAt arguments.length index]] := by
    rw [List.extract_eq_take_drop, Nat.add_sub_cancel_left, List.drop_eq_getElem_cons hlt]
    rfl
  refine callsAlike_of_givesJust hgives _ _ ((hc level arguments s).1 hlow hhigh) ?_
  rw [hd level arguments s, hend, hwindow]

theorem TouchesIndex.replaces_last {c f g : Value} (hc : TouchesIndex c f g (-1)) (level : Nat)
    (front : List Value) (x : Value) (s : State) :
    ((machineAt (level + 1)).call c (front ++ [x]) []).ends s =
      (callReplaced (machineAt level) f g front x []).ends s := by
  have hlength : (front ++ [x]).length = front.length + 1 := by simp
  have hp : boundAt (front ++ [x]).length (-1) = front.length := by
    rw [boundAt_neg_one, hlength, Nat.add_sub_cancel]
  rw [(hc level (front ++ [x]) s).1 (by omega) (by omega)]
  simp only [hp, List.take_left, List.get_eq_getElem, List.getElem_concat_length, List.drop_append,
    Nat.add_sub_cancel_left, List.drop_succ_cons, List.drop_nil, List.nil_append,
    List.drop_eq_nil_of_le (Nat.le_succ _)]

theorem ends_combineTwo {f g : Value} (hf : f.isCallable = true) (hg : g.isCallable = true)
    (m : Machine) (make : Value → Value → Combinator Value) (s : State) :
    (combineTwo m make f g).ends s =
      some (.ok (.combined s.serial (make f g)), { s with serial := s.serial + 1 }) := by
  rw [combineTwo, coerce_eq_pure hf, coerce_eq_pure hg, pure_bind, pure_bind]
  rfl

/-- A function behind the filter of a window calls nothing else with other arguments. -/
theorem filterSlice_touches_window {f g : Value} (hf : f.isCallable = true)
    (hg : g.isCallable = true) (first : Int) (last : Option Int) (s : State) :
    ∃ c, (Operation.filterSlice.run machine [f, g, .int first, boundValue last] []).ends s =
        some (.ok c, { s with serial := s.serial + 1 }) ∧ TouchesWindow c f g first last ∧
      ∀ (level : Nat) (arguments window : List Value) (t u : State) (v : Value),
        window = arguments.extract (boundAt arguments.length first)
          (max (boundAt arguments.length first) (endAt arguments.length last)) →
        (callPlain (machineAt level) g window).ends t = some (.ok v, u) → standsFor u v = window →
        ((machineAt (level + 1)).call c arguments []).ends t =
          (callPlain (machineAt level) f arguments).ends u := by
  have hwindow := touchesWindow_filterSlice s.serial f g first last
  exact ⟨_, ends_combineTwo hf hg machine (Combinator.filterSlice · · _ _) s, hwindow,
    fun level arguments window t u v => hwindow.unchanged⟩

/-- A function behind the filter of an argument, and one behind the filter of the window up to the
next index. -/
theorem filterAt_touches_index {f g h : Value} (hf : f.isCallable = true)
    (hg : g.isCallable = true) (hh : h.isCallable = true) (index : Int) (s : State) :
    ∃ c d, (Operation.filterAt.run machine [f, .int index, g] []).ends s =
        some (.ok c, { s with serial := s.serial + 1 }) ∧ TouchesIndex c f g index ∧
      (index = -1 → ∀ (level : Nat) (front : List Value) (x : Value) (t : State),
        ((machineAt (level + 1)).call c (front ++ [x]) []).ends t =
          (callReplaced (machineAt level) f g front x []).ends t) ∧
      (Operation.filterSlice.run machine
          [f, h, .int index, boundValue (some (index + 1))] []).ends s =
        some (.ok d, { s with serial := s.serial + 1 }) ∧
      (index ≠ -1 → ∀ (level : Nat) (arguments : List Value) (x : Value) (t : State),
        -arguments.length ≤ index → index < arguments.length →
        arguments[boundAt arguments.length index]? = some x →
        GivesJust (machineAt level) g h x t →
        CallsAlike (machineAt level) f g h (arguments.take (boundAt arguments.length index)) x
          (arguments.drop (boundAt arguments.length index + 1)) t
          ((machineAt (level + 1)).call c arguments [])
          ((machineAt (level + 1)).call d arguments [])) := by
  have hnext := touchesWindow_filterSlice s.serial f h index (some (index + 1))
  have hindex := touchesIndex_filterAt s.serial f g index
  refine ⟨_, _, ends_combineTwo hf hg machine (Combinator.filterAt · _ ·) s, hindex, ?_,
    ends_combineTwo hf hh machine (Combinator.filterSlice · · _ _) s, ?_⟩
  · rintro rfl
    exact hindex.replaces_last
  · intro hne level arguments x t hlow hhigh hx hgives
    exact hindex.callsAlike hnext hne hlow hhigh hx hgives

/-- Filters touch only their window. A function behind the filter of a window calls the filter once
with the arguments from one bound to the other and then the function once, with what the result
stands for in their place; if it stands for the same arguments, the call is one of the function
alone. A function behind the filter of an argument does so with the one at an index, be it counted
from the end or not, and fails without calling anything if there is none; but for the index `-1`, at
which it replaces the last argument, it is the same as filtering the window up to the next index
with a filter that lists what the other one gives. -/
theorem prefilters_touch_window {f g h : Value} (hf : f.isCallable = true)
    (hg : g.isCallable = true) (hh : h.isCallable = true) (first : Int) (last : Option Int)
    (index : Int) (s : State) :
    (∃ c, (Operation.filterSlice.run machine [f, g, .int first, boundValue last] []).ends s =
        some (.ok c, { s with serial := s.serial + 1 }) ∧ TouchesWindow c f g first last ∧
      ∀ (level : Nat) (arguments window : List Value) (t u : State) (v : Value),
        window = arguments.extract (boundAt arguments.length first)
          (max (boundAt arguments.length first) (endAt arguments.length last)) →
        (callPlain (machineAt level) g window).ends t = some (.ok v, u) → standsFor u v = window →
        ((machineAt (level + 1)).call c arguments []).ends t =
          (callPlain (machineAt level) f arguments).ends u) ∧
    ∃ c d, (Operation.filterAt.run machine [f, .int index, g] []).ends s =
        some (.ok c, { s with serial := s.serial + 1 }) ∧ TouchesIndex c f g index ∧
      (index = -1 → ∀ (level : Nat) (front : List Value) (x : Value) (t : State),
        ((machineAt (level + 1)).call c (front ++ [x]) []).ends t =
          (callReplaced (machineAt level) f g front x []).ends t) ∧
      (Operation.filterSlice.run machine
          [f, h, .int index, boundValue (some (index + 1))] []).ends s =
        some (.ok d, { s with serial := s.serial + 1 }) ∧
      (index ≠ -1 → ∀ (level : Nat) (arguments : List Value) (x : Value) (t : State),
        -arguments.length ≤ index → index < arguments.length →
        arguments[boundAt arguments.length index]? = some x →
        GivesJust (machineAt level) g h x t →
        CallsAlike (machineAt level) f g h (arguments.take (boundAt arguments.length index)) x
          (arguments.drop (boundAt arguments.length index + 1)) t
          ((machineAt (level + 1)).call c arguments [])
          ((machineAt (level + 1)).call d arguments [])) :=
  ⟨filterSlice_touches_window hf hg first last s, filterAt_touches_index hf hg hh index s⟩

/-- The second of two arguments, which `str` leaves as it is and `list` makes a list of. -/
theorem prefilters_touch_window_second :
    ∃ c d e s t, (Operation.filterSlice.run machine
        [.builtin "max", .type "str", .int 1, boundValue none] []).ends {} = some (.ok c, s) ∧
      ((machineAt 2).call c [.text "b", .text "a"] []).ends {} =
        (callPlain (machineAt 1) (.builtin "max") [.text "b", .text "a"]).ends {} ∧
      (Operation.filterAt.run machine
        [.builtin "max", .int 1, .type "str"] []).ends {} = some (.ok d, t) ∧
      CallsAlike (machineAt 1) (.builtin "max") (.type "str") (.type "list") [.text "b"]
        (.text "a") [] {} ((machineAt 2).call d [.text "b", .text "a"] [])
        ((machineAt 2).call e [.text "b", .text "a"] []) := by
  have hcallable (name : String) : (Value.type name).isCallable = true := rfl
  have hstr : (callPlain (machineAt 1) (.type "str") [.text "a"]).ends {} =
      some (.ok (.text "a"), {}) := rfl
  have hlist : (callPlain (machineAt 1) (.type "list") [.text "a"]).ends {} =
      some (.ok (.list 0), { cells := #[.list #[.text "a"]] }) := rfl
  have hgives : GivesJust (machineAt 1) (.type "str") (.type "list") (.text "a") {} := by
    unfold GivesJust
    rw [hstr]
    exact ⟨_, _, hlist, rfl⟩
  obtain ⟨⟨c, hc, -, hsame⟩, d, e, hd, -, -, -, halike⟩ := prefilters_touch_window
    (f := .builtin "max") rfl (hcallable "str") (hcallable "list") 1 none 1 {}
  exact ⟨c, d, e, _, _, hc, hsame 1 [.text "b", .text "a"] [.text "a"] {} {} _ rfl hstr rfl, hd,
    halike (by decide) 1 [.text "b", .text "a"] (.text "a") {} (by decide) (by decide) rfl hgives⟩

end LambdaText
