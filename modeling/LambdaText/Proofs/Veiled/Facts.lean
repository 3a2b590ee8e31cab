import LambdaText.Eval.Advance
import LambdaText.Eval.Combine
import LambdaText.Proofs.Veiled.Basic

/-!
# Known data

What is known of the data at hand when a computation starts: that none of them leads to what is
hidden. Facts about data are taken apart where the data are, and put together for what is made of
them.
-/

namespace LambdaText

open LambdaText.Code LambdaText.Function

variable {V : Veil} {α β : Type}

/-- What is known when a computation starts, a condition on worlds that lasts. -/
structure Facts (V : Veil) where
  /-- The condition. -/
  holds : World → Prop
  /-- It lasts. -/
  mono {W W' : World} : W.Within W' → holds W → holds W'

/-- Facts, and that some data do not lead to what is hidden. -/
def Facts.and (c : Facts V) [Valued α] (a : α) : Facts V :=
  ⟨fun W => c.holds W ∧ Valued.clear V W a, fun h hc => ⟨c.mono h hc.1, Valued.mono h hc.2⟩⟩

/-- Facts, and that a frame stands at an address and shares no names out. -/
def Facts.entered (c : Facts V) (f : Frame) (address : Nat) : Facts V :=
  ⟨fun W => c.holds W ∧ (∀ names ∈ f.known?, W address = some names) ∧ ¬ V.Hides address,
    fun h hc => ⟨c.mono h hc.1, fun names hn => h address names (hc.2.1 names hn), hc.2.2⟩⟩

/-- Some data do not lead to what is hidden, as the facts say. -/
class Has (c : Facts V) [Valued α] (a : α) : Prop where
  clear {W : World} : c.holds W → Valued.clear V W a

/-- An address is not the one that is hidden, as the facts say. -/
class Away (c : Facts V) (address : Nat) : Prop where
  ne {W : World} : c.holds W → address ≠ V.cell

/-- A compiler is not the one that is hidden, as the facts say. -/
class Public (c : Facts V) (address : Nat) : Prop where
  ne {W : World} : c.holds W → address ≠ V.compiler

/-- Code in a scope may look names up, as the facts say. -/
class Covered (c : Facts V) (scope : Scope) (names : List String) : Prop where
  covers {W : World} : c.holds W → V.Covers W scope names

/-- A scope has other global names than the hidden ones and no frame that shares names out, as the
facts say. -/
class Foreign (c : Facts V) (scope : Scope) : Prop where
  ne {W : World} : c.holds W → scope.globals ≠ V.cell
  frames {W : World} : c.holds W → ∀ a ∈ scope.frames, ¬ V.Hides a

/-- A function may be called that was made in a scope, as the facts say. -/
class Admitted (c : Facts V) (scope : Scope) (code : Routine) : Prop where
  admits {W : World} : c.holds W → V.Admits W scope code

/-- Facts that say no less than others do. -/
class Knows (c d : Facts V) : Prop where
  le {W : World} : c.holds W → d.holds W

/-- Facts that say no less than others do, which speak of the parts of the data. -/
class Opens (c : Facts V) (d : outParam (Facts V)) : Prop where
  le {W : World} : c.holds W → d.holds W

section

variable {c d : Facts V} [Valued α] [Valued β]

theorem Has.imp {a : α} {b : β} (h : ∀ W, Valued.clear V W a → Valued.clear V W b) [Has c a] :
    Has c b :=
  ⟨fun hc => h _ (Has.clear hc)⟩

theorem Has.imp₂ {γ : Type} [Valued γ] {a : α} {b : β} {x : γ}
    (h : ∀ W, Valued.clear V W a → Valued.clear V W b → Valued.clear V W x) [Has c a] [Has c b] :
    Has c x :=
  ⟨fun hc => h _ (Has.clear hc) (Has.clear hc)⟩

/-- Data that do not lead to what is hidden may be taken for known. -/
theorem Has.using {a : α} (b : β) [Has c b] (h : Has (c.and b) a) : Has c a :=
  ⟨fun hc => h.clear ⟨hc, Has.clear hc⟩⟩

/-! ### Facts at hand -/

instance has_self (a : α) : Has (c.and a) a := ⟨fun hc => hc.2⟩

instance has_and (a : α) (b : β) [Has c a] : Has (c.and b) a := ⟨fun hc => Has.clear hc.1⟩

instance away_and (n : Nat) (b : β) [Away c n] : Away (c.and b) n := ⟨fun hc => Away.ne hc.1⟩

instance public_and (n : Nat) (b : β) [Public c n] : Public (c.and b) n :=
  ⟨fun hc => Public.ne hc.1⟩

instance covered_and (scope : Scope) (names : List String) (b : β) [Covered c scope names] :
    Covered (c.and b) scope names :=
  ⟨fun hc => Covered.covers hc.1⟩

instance foreign_and (scope : Scope) (b : β) [Foreign c scope] : Foreign (c.and b) scope :=
  ⟨fun hc => Foreign.ne hc.1, fun hc => Foreign.frames hc.1⟩

instance admitted_and (scope : Scope) (code : Routine) (b : β) [Admitted c scope code] :
    Admitted (c.and b) scope code :=
  ⟨fun hc => Admitted.admits hc.1⟩

instance knows_self : Knows c c := ⟨id⟩

instance knows_and (b : β) [Knows c d] : Knows (c.and b) d := ⟨fun hc => Knows.le hc.1⟩

/-! ### Parts of data at hand -/

instance has_of_opens (a : α) [Opens c d] [Has d a] : Has c a :=
  ⟨fun hc => Has.clear (Opens.le (c := c) (d := d) hc)⟩

instance away_of_opens (n : Nat) [Opens c d] [Away d n] : Away c n :=
  ⟨fun hc => Away.ne (Opens.le (c := c) (d := d) hc)⟩

instance public_of_opens (n : Nat) [Opens c d] [Public d n] : Public c n :=
  ⟨fun hc => Public.ne (Opens.le (c := c) (d := d) hc)⟩

instance covered_of_opens (scope : Scope) (names : List String) [Opens c d]
    [Covered d scope names] : Covered c scope names :=
  ⟨fun hc => Covered.covers (Opens.le (c := c) (d := d) hc)⟩

instance foreign_of_opens (scope : Scope) [Opens c d] [Foreign d scope] : Foreign c scope :=
  ⟨fun hc => Foreign.ne (Opens.le (c := c) (d := d) hc),
    fun hc => Foreign.frames (Opens.le (c := c) (d := d) hc)⟩

instance admitted_of_opens (scope : Scope) (code : Routine) [Opens c d]
    [Admitted d scope code] : Admitted c scope code :=
  ⟨fun hc => Admitted.admits (Opens.le (c := c) (d := d) hc)⟩

instance opens_some (a : α) : Opens (c.and (some a)) (c.and a) :=
  ⟨fun hc => ⟨hc.1, hc.2 a rfl⟩⟩

instance opens_pair (a : α) (b : β) : Opens (c.and (a, b)) ((c.and a).and b) :=
  ⟨fun hc => ⟨⟨hc.1, hc.2.1⟩, hc.2.2⟩⟩

instance opens_cons (a : α) (l : List α) : Opens (c.and (a :: l)) ((c.and a).and l) :=
  ⟨fun hc => ⟨⟨hc.1, hc.2 a List.mem_cons_self⟩, fun b hb => hc.2 b (.tail _ hb)⟩⟩

instance opens_append (l l' : List α) : Opens (c.and (l ++ l')) ((c.and l).and l') :=
  ⟨fun hc => ⟨⟨hc.1, fun a ha => hc.2 a (List.mem_append_left _ ha)⟩,
    fun a ha => hc.2 a (List.mem_append_right _ ha)⟩⟩

instance opens_toList (o : Option α) : Opens (c.and o.toList) (c.and o) :=
  ⟨fun hc => ⟨hc.1, fun a ha => hc.2 a (Option.mem_toList.2 ha)⟩⟩

instance opens_inl (a : α) : Opens (c.and (.inl a : α ⊕ β)) (c.and a) := ⟨id⟩

instance opens_inr (b : β) : Opens (c.and (.inr b : α ⊕ β)) (c.and b) := ⟨id⟩

instance opens_ok (a : α) : Opens (c.and (.ok a : Except Value α)) (c.and a) := ⟨id⟩

instance opens_error (e : Value) : Opens (c.and (.error e : Except Value α)) (c.and e) := ⟨id⟩

end

section

variable {c : Facts V}

instance knows_entered {d : Facts V} (f : Frame) (address : Nat) [Knows c d] :
    Knows (c.entered f address) d := ⟨fun hc => Knows.le hc.1⟩

instance opens_entered (f : Frame) (address : Nat) : Opens (c.entered f address) c :=
  ⟨fun hc => hc.1⟩

instance opens_give (v : Value) : Opens (c.and (Flow.give v)) (c.and v) := ⟨id⟩

instance opens_cellList (items : Array Value) : Opens (c.and (Cell.list items)) (c.and items) :=
  ⟨id⟩

instance opens_cellSet (items : Array Value) : Opens (c.and (Cell.set items)) (c.and items) := ⟨id⟩

instance opens_cellDict (entries : Array (Value × Value)) :
    Opens (c.and (Cell.dict entries)) (c.and entries) := ⟨id⟩

instance opens_cellIterator (i : Iterator) : Opens (c.and (Cell.iterator i)) (c.and i) := ⟨id⟩

/-! ### Parts of values -/

theorem opens_parts (v : Value) : Opens (c.and v) (c.and v.parts) :=
  ⟨fun hc => ⟨hc.1, (Veil.clear_iff.1 hc.2).2⟩⟩

instance opens_tuple (items : List Value) : Opens (c.and (Value.tuple items)) (c.and items) :=
  opens_parts _

instance opens_slice (first last step : Value) :
    Opens (c.and (Value.slice first last step)) (c.and [first, last, step]) :=
  opens_parts _

instance opens_bound (receiver : Value) (name : String) :
    Opens (c.and (Value.bound receiver name)) (c.and [receiver]) :=
  opens_parts _

instance opens_function (serial : Nat) (code : Routine) (scope : Scope) (name : String)
    (defaults : List (String × Value)) :
    Opens (c.and (Value.function serial code scope name defaults)) (c.and defaults) :=
  ⟨fun ⟨hc, hv⟩ =>
    ⟨hc, fun _ hd => ⟨trivial, (Veil.clear_iff.1 hv).2 _ (List.mem_map_of_mem hd)⟩⟩⟩

instance opens_compiled (serial : Nat) (s : Source) (f : Value) :
    Opens (c.and (Value.compiled serial s f)) (c.and [f]) :=
  opens_parts _

instance opens_errorValue (kind : String) (arguments : List Value) (cause : Option Cause) :
    Opens (c.and (Value.error kind arguments cause)) (c.and arguments) :=
  opens_parts _

instance opens_curried (serial : Nat) (f : Curried Value) :
    Opens (c.and (Value.curried serial f))
      ((((c.and f.function).and f.right).and f.held).and f.count) :=
  ⟨fun ⟨hc, hv⟩ => by
    have hparts := (Veil.clear_iff.1 hv).2
    simp only [Value.parts, curriedParts, List.cons_append, List.forall_mem_cons,
      List.forall_mem_append, Option.mem_toList] at hparts
    exact ⟨⟨⟨⟨hc, hparts.1⟩, hparts.2.1⟩, hparts.2.2.1⟩, hparts.2.2.2⟩⟩

instance opens_template (serial : Nat) (t : Template Value) :
    Opens (c.and (Value.template serial t)) ((c.and t.function).and t.items) :=
  ⟨fun ⟨hc, hv⟩ => by
    have hparts := (Veil.clear_iff.1 hv).2
    simp only [Value.parts, templateParts, List.forall_mem_cons] at hparts
    exact ⟨⟨hc, hparts.1⟩, hparts.2⟩⟩

instance opens_combined (serial : Nat) (f : Combinator Value) :
    Opens (c.and (Value.combined serial f)) (c.and (combinedParts f)) :=
  opens_parts _

instance away_list (a : Nat) : Away (c.and (Value.list a)) a :=
  ⟨fun hc => (Veil.clear_iff.1 hc.2).1⟩

instance away_dict (a : Nat) : Away (c.and (Value.dict a)) a :=
  ⟨fun hc => (Veil.clear_iff.1 hc.2).1⟩

instance away_set (a : Nat) : Away (c.and (Value.set a)) a :=
  ⟨fun hc => (Veil.clear_iff.1 hc.2).1⟩

instance away_view (kind : String) (a : Nat) : Away (c.and (Value.view kind a)) a :=
  ⟨fun hc => (Veil.clear_iff.1 hc.2).1⟩

instance away_iterator (kind : String) (a : Nat) : Away (c.and (Value.iterator kind a)) a :=
  ⟨fun hc => (Veil.clear_iff.1 hc.2).1⟩

instance admitted_function (serial : Nat) (code : Routine) (scope : Scope) (name : String)
    (defaults : List (String × Value)) :
    Admitted (c.and (Value.function serial code scope name defaults)) scope code :=
  ⟨fun hc => (Veil.clear_iff.1 hc.2).1⟩

instance public_compiler (a : Nat) : Public (c.and (Value.compiler a)) a :=
  ⟨fun hc => (Veil.clear_iff.1 hc.2).1⟩

/-! ### Parts of iterators -/

instance opens_items (rest : List Value) : Opens (c.and (Iterator.items rest)) (c.and rest) := ⟨id⟩

instance away_listIterator (a n : Nat) : Away (c.and (Iterator.list a n)) a := ⟨fun hc => hc.2⟩

instance away_backwards (a n : Nat) : Away (c.and (Iterator.backwards a n)) a := ⟨fun hc => hc.2⟩

instance away_dictIterator (kind : String) (a n size : Nat) :
    Away (c.and (Iterator.dict kind a n size)) a :=
  ⟨fun hc => hc.2⟩

instance away_setIterator (a n size : Nat) : Away (c.and (Iterator.set a n size)) a :=
  ⟨fun hc => hc.2⟩

instance opens_enumerate (source : Value) (next : Int) :
    Opens (c.and (Iterator.enumerate source next)) (c.and source) := ⟨id⟩

instance opens_zip (sources : List Value) (strict : Bool) :
    Opens (c.and (Iterator.zip sources strict)) (c.and sources) := ⟨id⟩

instance opens_map (f : Value) (sources : List Value) :
    Opens (c.and (Iterator.map f sources)) ((c.and f).and sources) :=
  ⟨fun hc => ⟨⟨hc.1, hc.2.1⟩, hc.2.2⟩⟩

instance opens_filter (test source : Value) :
    Opens (c.and (Iterator.filter test source)) ((c.and test).and source) :=
  ⟨fun hc => ⟨⟨hc.1, hc.2.1⟩, hc.2.2⟩⟩

instance opens_calls (f stop : Value) :
    Opens (c.and (Iterator.calls f stop)) ((c.and f).and stop) :=
  ⟨fun hc => ⟨⟨hc.1, hc.2.1⟩, hc.2.2⟩⟩

instance opens_comprehension (scope : Scope) (item : Expr) (value : Option Expr)
    (loops : List Loop) (opened : List Value) :
    Opens (c.and (Iterator.comprehension scope item value loops opened)) (c.and opened) :=
  ⟨fun hc => ⟨hc.1, hc.2.2⟩⟩

instance opens_failing (rest : List Value) (error : Value) :
    Opens (c.and (Iterator.failing rest error)) ((c.and rest).and error) :=
  ⟨fun hc => ⟨⟨hc.1, hc.2.1⟩, hc.2.2⟩⟩

end

/-! ### Data without values -/

/-- A type of data that hold no values. -/
class Plain (α : Type) [Valued α] : Prop where
  clear (V : Veil) (W : World) (a : α) : Valued.clear V W a

instance plain_default : @Plain α valuedPlain := @Plain.mk α valuedPlain fun _ _ _ => trivial

section

variable {c : Facts V} [Valued α] [Valued β]

instance plain_option [Plain α] : Plain (Option α) := ⟨fun V W _ a _ => Plain.clear V W a⟩

instance plain_list [Plain α] : Plain (List α) := ⟨fun V W _ a _ => Plain.clear V W a⟩

instance plain_array [Plain α] : Plain (Array α) := ⟨fun V W _ a _ => Plain.clear V W a⟩

instance plain_prod [Plain α] [Plain β] : Plain (α × β) :=
  ⟨fun V W p => ⟨Plain.clear V W p.1, Plain.clear V W p.2⟩⟩

instance has_plain [Plain α] (a : α) : Has c a := ⟨fun _ => Plain.clear _ _ a⟩

/-! ### Options and pairs -/

instance has_none : Has c (none : Option α) := ⟨fun _ _ h => nomatch h⟩

instance has_some (a : α) [Has c a] : Has c (some a) :=
  Has.imp (a := a) fun _ h _ hb => Option.some.inj hb ▸ h

instance has_pair (a : α) (b : β) [Has c a] [Has c b] : Has c (a, b) :=
  Has.imp₂ (a := a) (b := b) fun _ h h' => ⟨h, h'⟩

instance has_fst (p : α × β) [Has c p] : Has c p.1 := Has.imp (a := p) fun _ h => h.1

instance has_snd (p : α × β) [Has c p] : Has c p.2 := Has.imp (a := p) fun _ h => h.2

instance has_getD (o : Option α) (a : α) [Has c o] [Has c a] : Has c (o.getD a) :=
  Has.imp₂ (a := o) (b := a) fun _ h h' => by
    cases o with
    | none => exact h'
    | some b => exact h b rfl

instance has_orElse (o : Option α) (f : Unit → Option α) [Has c o] [Has c (f ())] :
    Has c (HOrElse.hOrElse o f) :=
  Has.imp₂ (a := o) (b := f ()) fun _ h h' => by
    cases o with
    | none => exact h'
    | some b => exact h

instance has_optionMap (f : α → β) (o : Option α) [Has c o] [∀ a, Has (c.and a) (f a)] :
    Has c (o.map f) :=
  ⟨fun hc b hb => by
    obtain ⟨a, rfl, rfl⟩ := Option.map_eq_some_iff.1 hb
    exact Has.clear (c := c.and a) ⟨hc, Has.clear (a := some a) hc a rfl⟩⟩

instance has_optionBind (o : Option α) (f : α → Option β) [Has c o] [∀ a, Has (c.and a) (f a)] :
    Has c (o.bind f) :=
  ⟨fun hc => by
    cases o with
    | none => exact fun _ h => nomatch h
    | some a =>
      exact Has.clear (c := c.and a) (a := f a) ⟨hc, Has.clear (a := some a) hc a rfl⟩⟩

instance has_ite (p : Prop) [Decidable p] (a b : α) [Has c a] [Has c b] :
    Has c (if p then a else b) := by
  split <;> infer_instance

instance has_inl (a : α) [Has c a] : Has c (.inl a : α ⊕ β) := Has.imp (a := a) fun _ h => h

instance has_inr (b : β) [Has c b] : Has c (.inr b : α ⊕ β) := Has.imp (a := b) fun _ h => h

instance has_ok (a : α) [Has c a] : Has c (.ok a : Except Value α) := Has.imp (a := a) fun _ h => h

instance has_exceptError (e : Value) [Has c e] : Has c (.error e : Except Value α) :=
  Has.imp (a := e) fun _ h => h

/-! ### Rows -/

theorem has_of_subset {l l' : List α} (h : l' ⊆ l) [Has c l] : Has c l' :=
  Has.imp (a := l) fun _ hl a ha => hl a (h ha)

instance has_nil : Has c ([] : List α) := ⟨fun _ _ h => nomatch h⟩

instance has_cons (a : α) (l : List α) [Has c a] [Has c l] : Has c (a :: l) :=
  Has.imp₂ (a := a) (b := l) fun _ h h' b hb => by
    rcases List.mem_cons.1 hb with rfl | hb
    · exact h
    · exact h' b hb

instance has_append (l l' : List α) [Has c l] [Has c l'] : Has c (l ++ l') :=
  Has.imp₂ (a := l) (b := l') fun _ h h' b hb => (List.mem_append.1 hb).elim (h b) (h' b)

instance has_take (n : Nat) (l : List α) [Has c l] : Has c (l.take n) :=
  has_of_subset (List.take_subset n l)

instance has_drop (n : Nat) (l : List α) [Has c l] : Has c (l.drop n) :=
  has_of_subset (List.drop_subset n l)

instance has_reverse (l : List α) [Has c l] : Has c l.reverse :=
  has_of_subset (List.reverse_subset.2 (List.Subset.refl l))

instance has_filter (p : α → Bool) (l : List α) [Has c l] : Has c (l.filter p) :=
  has_of_subset (List.filter_subset_self l)

instance has_toList (l : Array α) [Has c l] : Has c l.toList :=
  Has.imp (a := l) fun _ h a ha => h a (Array.mem_toList_iff.1 ha)

instance has_toArray (l : List α) [Has c l] : Has c l.toArray :=
  Has.imp (a := l) fun _ h a ha => h a (List.mem_toArray.1 ha)

instance has_getElem? (l : List α) (i : Nat) [Has c l] : Has c l[i]? :=
  Has.imp (a := l) fun _ h a ha => h a (List.mem_of_getElem? ha)

instance has_headD (l : List α) (a : α) [Has c l] [Has c a] : Has c (l.headD a) := by
  rw [List.headD_eq_head?_getD, List.head?_eq_getElem?]
  infer_instance

instance has_head? (l : List α) [Has c l] : Has c l.head? := by
  rw [List.head?_eq_getElem?]
  infer_instance

instance has_listMap (f : α → β) (l : List α) [Has c l] [∀ a, Has (c.and a) (f a)] :
    Has c (l.map f) :=
  ⟨fun hc b hb => by
    obtain ⟨a, ha, rfl⟩ := List.mem_map.1 hb
    exact Has.clear (c := c.and a) ⟨hc, Has.clear (a := l) hc a ha⟩⟩

instance has_replicate (n : Nat) (a : α) [Has c a] : Has c (List.replicate n a) :=
  Has.imp (a := a) fun _ h _ hb => List.eq_of_mem_replicate hb ▸ h

instance has_flatten (l : List (List α)) [Has c l] : Has c l.flatten :=
  Has.imp (a := l) fun _ h a ha => by
    obtain ⟨row, hrow, hmem⟩ := List.mem_flatten.1 ha
    exact h row hrow a hmem

instance has_zip (l : List α) (l' : List β) [Has c l] [Has c l'] : Has c (l.zip l') :=
  Has.imp₂ (a := l) (b := l') fun _ h h' _ hp =>
    ⟨h _ (List.of_mem_zip hp).1, h' _ (List.of_mem_zip hp).2⟩

instance has_zipIdx (l : List α) (n : Nat) [Has c l] : Has c (l.zipIdx n) :=
  Has.imp (a := l) fun _ h p hp => ⟨h p.1 (List.fst_mem_of_mem_zipIdx hp), trivial⟩

instance has_find? (p : α → Bool) (l : List α) [Has c l] : Has c (l.find? p) :=
  Has.imp (a := l) fun _ h a ha => h a (List.mem_of_find?_eq_some ha)

instance has_lookup (k : String) (l : List (String × α)) [Has c l] : Has c (l.lookup k) :=
  Has.imp (a := l) fun _ h a ha => by
    obtain ⟨l₁, l₂, rfl, -⟩ := List.lookup_eq_some_iff.1 ha
    exact (h (k, a) (by simp)).2

instance has_filterMap (f : α → Option β) (l : List α) [Has c l] [∀ a, Has (c.and a) (f a)] :
    Has c (l.filterMap f) :=
  ⟨fun hc b hb => by
    obtain ⟨a, ha, hab⟩ := List.mem_filterMap.1 hb
    exact Has.clear (c := c.and a) (a := f a) ⟨hc, Has.clear (a := l) hc a ha⟩ b hab⟩

instance has_emptyArray : Has c (#[] : Array α) := ⟨fun _ _ h => nomatch h⟩

instance has_push (l : Array α) (a : α) [Has c l] [Has c a] : Has c (l.push a) :=
  Has.imp₂ (a := l) (b := a) fun _ h h' b hb => by
    rcases Array.mem_push.1 hb with hb | rfl
    · exact h b hb
    · exact h'

instance has_appendArray (l l' : Array α) [Has c l] [Has c l'] : Has c (l ++ l') :=
  Has.imp₂ (a := l) (b := l') fun _ h h' b hb => (Array.mem_append.1 hb).elim (h b) (h' b)

instance has_getElemArray? (l : Array α) (i : Nat) [Has c l] : Has c l[i]? :=
  Has.imp (a := l) fun _ h a ha => h a (Array.mem_of_getElem? ha)

instance has_findArray? (p : α → Bool) (l : Array α) [Has c l] : Has c (l.find? p) :=
  Has.imp (a := l) fun _ h a ha => h a (Array.mem_of_find?_eq_some ha)

instance has_setIfInBounds (l : Array α) (i : Nat) (a : α) [Has c l] [Has c a] :
    Has c (l.setIfInBounds i a) :=
  Has.imp₂ (a := l) (b := a) fun _ h h' b hb => by
    rcases Array.mem_or_eq_of_mem_setIfInBounds hb with hb | rfl
    · exact h b hb
    · exact h'

instance has_listSet (l : List α) (i : Nat) (a : α) [Has c l] [Has c a] : Has c (l.set i a) :=
  Has.imp₂ (a := l) (b := a) fun _ h h' b hb => by
    rcases List.mem_or_eq_of_mem_set hb with hb | rfl
    · exact h b hb
    · exact h'

instance has_eraseIdx (l : Array α) (i : Nat) [Has c l] : Has c (l.eraseIdxIfInBounds i) := by
  rw [Array.eraseIdxIfInBounds]
  split
  · exact Has.imp (a := l) fun _ h a ha => h a (Array.mem_of_mem_eraseIdx ha)
  · infer_instance

instance has_filterArray (p : α → Bool) (l : Array α) [Has c l] : Has c (l.filter p) :=
  Has.imp (a := l) fun _ h a ha => h a (Array.mem_filter.1 ha).1

instance has_reverseArray (l : Array α) [Has c l] : Has c l.reverse :=
  Has.imp (a := l) fun _ h a ha => h a (Array.mem_reverse.1 ha)

instance has_pop (l : Array α) [Has c l] : Has c l.pop :=
  Has.imp (a := l) fun _ h a ha => h a (by
    rw [← Array.mem_toList_iff, Array.toList_pop] at ha
    exact Array.mem_toList_iff.1 ((List.dropLast_sublist _).subset ha))

instance has_back? (l : Array α) [Has c l] : Has c l.back? := by
  rw [Array.back?]
  infer_instance

instance has_foldl (f : β → α → β) (b : β) (l : List α) [Has c b] [Has c l]
    [∀ b a, Has ((c.and b).and a) (f b a)] : Has c (l.foldl f b) :=
  ⟨fun {W} hc => by
    have hrun : ∀ (l : List α) (b : β), Valued.clear V W l → Valued.clear V W b →
        Valued.clear V W (l.foldl f b) := by
      intro l
      induction l with
      | nil => exact fun b _ hb => hb
      | cons a l ih =>
        exact fun b hl hb => ih (f b a) (fun x hx => hl x (.tail _ hx))
          (Has.clear (c := (c.and b).and a) ⟨⟨hc, hb⟩, hl a List.mem_cons_self⟩)
    exact hrun l b (Has.clear hc) (Has.clear hc)⟩

instance has_foldlArray (f : β → α → β) (b : β) (l : Array α) [Has c b] [Has c l]
    [∀ b a, Has ((c.and b).and a) (f b a)] : Has c (l.foldl f b) := by
  rw [← Array.foldl_toList]
  infer_instance

end

/-! ### Values -/

section

variable {c : Facts V}

/-- A value of which only the parts might lead to what is hidden. -/
theorem has_of_parts {v : Value} (own : ∀ W, V.Avoids W v) (parts : Has c v.parts) : Has c v :=
  Has.imp (a := v.parts) fun W h => Veil.clear_iff.2 ⟨own W, h⟩

instance has_noneValue : Has c (Value.none) := has_of_parts (fun _ => trivial) has_nil

instance has_bool (b : Bool) : Has c (Value.bool b) := has_of_parts (fun _ => trivial) has_nil

instance has_int (i : Int) : Has c (Value.int i) := has_of_parts (fun _ => trivial) has_nil

instance has_float (x : Float) : Has c (Value.float x) := has_of_parts (fun _ => trivial) has_nil

instance has_complex (re im : Float) : Has c (Value.complex re im) :=
  has_of_parts (fun _ => trivial) has_nil

instance has_text (s : String) : Has c (Value.text s) := has_of_parts (fun _ => trivial) has_nil

instance has_bytes (b : List UInt8) : Has c (Value.bytes b) :=
  has_of_parts (fun _ => trivial) has_nil

instance has_ellipsis : Has c (Value.ellipsis) := has_of_parts (fun _ => trivial) has_nil

instance has_hole : Has c (Value.hole) := has_of_parts (fun _ => trivial) has_nil

instance has_range (first last step : Int) : Has c (Value.range first last step) :=
  has_of_parts (fun _ => trivial) has_nil

instance has_builtin (name : String) : Has c (Value.builtin name) :=
  has_of_parts (fun _ => trivial) has_nil

instance has_type (name : String) : Has c (Value.type name) :=
  has_of_parts (fun _ => trivial) has_nil

instance has_method (owner name : String) : Has c (Value.method owner name) :=
  has_of_parts (fun _ => trivial) has_nil

instance has_source (serial : Nat) (s : Source) : Has c (Value.source serial s) :=
  has_of_parts (fun _ => trivial) has_nil

instance has_settings (serial : Nat) (s : Settings) : Has c (Value.settings serial s) :=
  has_of_parts (fun _ => trivial) has_nil

instance has_module (name : String) : Has c (Value.module name) :=
  has_of_parts (fun _ => trivial) has_nil

instance has_ofChars (text : List Char) : Has c (Value.ofChars text) := has_text _

instance has_tuple (items : List Value) [Has c items] : Has c (Value.tuple items) :=
  has_of_parts (fun _ => trivial) ‹Has c items›

instance has_slice (first last step : Value) [Has c first] [Has c last] [Has c step] :
    Has c (Value.slice first last step) :=
  has_of_parts (fun _ => trivial) (inferInstanceAs (Has c [first, last, step]))

instance has_bound (receiver : Value) (name : String) [Has c receiver] :
    Has c (Value.bound receiver name) :=
  has_of_parts (fun _ => trivial) (inferInstanceAs (Has c [receiver]))

instance has_compiled (serial : Nat) (s : Source) (f : Value) [Has c f] :
    Has c (Value.compiled serial s f) :=
  has_of_parts (fun _ => trivial) (inferInstanceAs (Has c [f]))

instance has_error (kind : String) (arguments : List Value) (cause : Option Cause)
    [Has c arguments] : Has c (Value.error kind arguments cause) :=
  has_of_parts (fun _ => trivial) ‹Has c arguments›

instance has_curried (serial : Nat) (function right : Value) (held : List Value)
    (count : Option Value) [Has c function] [Has c held] [Has c count] [Has c right] :
    Has c (Value.curried serial ⟨function, held, count, right⟩) :=
  has_of_parts (fun _ => trivial) ⟨fun hc => by
    have hheld : Valued.clear V _ held := Has.clear hc
    have hcount : Valued.clear V _ count := Has.clear hc
    simp only [Value.parts, curriedParts]
    exact List.forall_mem_append.2 ⟨List.forall_mem_cons.2 ⟨Has.clear hc,
      List.forall_mem_cons.2 ⟨Has.clear hc, hheld⟩⟩, fun v hv => hcount v (Option.mem_toList.1 hv)⟩⟩

instance has_template (serial : Nat) (function : Value) (items : List Value) [Has c function]
    [Has c items] : Has c (Value.template serial ⟨function, items⟩) :=
  has_of_parts (fun _ => trivial) (inferInstanceAs (Has c (function :: items)))

instance has_list (a : Nat) [Away c a] : Has c (Value.list a) :=
  ⟨fun hc => .intro (Away.ne hc) fun _ h => nomatch h⟩

instance has_dict (a : Nat) [Away c a] : Has c (Value.dict a) :=
  ⟨fun hc => .intro (Away.ne hc) fun _ h => nomatch h⟩

instance has_set (a : Nat) [Away c a] : Has c (Value.set a) :=
  ⟨fun hc => .intro (Away.ne hc) fun _ h => nomatch h⟩

instance has_view (kind : String) (a : Nat) [Away c a] : Has c (Value.view kind a) :=
  ⟨fun hc => .intro (Away.ne hc) fun _ h => nomatch h⟩

instance has_iterator (kind : String) (a : Nat) [Away c a] : Has c (Value.iterator kind a) :=
  ⟨fun hc => .intro (Away.ne hc) fun _ h => nomatch h⟩

instance has_compiler (a : Nat) [Public c a] : Has c (Value.compiler a) :=
  ⟨fun hc => .intro (Public.ne hc) fun _ h => nomatch h⟩

instance admitted_of_foreign (scope : Scope) (code : Routine) [Foreign c scope] :
    Admitted c scope code :=
  ⟨fun hc => ⟨⟨Veil.places_of_forall (Foreign.frames hc), fun h => absurd h (Foreign.ne hc)⟩,
    fun h => absurd h (Foreign.ne hc)⟩⟩

instance has_function (serial : Nat) (code : Routine) (scope : Scope) (name : String)
    (defaults : List (String × Value)) [Admitted c scope code] [Has c defaults] :
    Has c (Value.function serial code scope name defaults) :=
  ⟨fun hc => .intro (Admitted.admits hc) fun p hp => by
    obtain ⟨d, hd, rfl⟩ := List.mem_map.1 hp
    exact (Has.clear (a := defaults) hc d hd).2⟩

/-! ### Cells and iterators -/

instance has_cellList (items : Array Value) [Has c items] : Has c (Cell.list items) :=
  Has.imp (a := items) fun _ h => h

instance has_cellSet (items : Array Value) [Has c items] : Has c (Cell.set items) :=
  Has.imp (a := items) fun _ h => h

instance has_cellDict (entries : Array (Value × Value)) [Has c entries] :
    Has c (Cell.dict entries) :=
  Has.imp (a := entries) fun _ h => h

instance has_cellIterator (i : Iterator) [Has c i] : Has c (Cell.iterator i) :=
  Has.imp (a := i) fun _ h => h

instance has_items (rest : List Value) [Has c rest] : Has c (Iterator.items rest) :=
  Has.imp (a := rest) fun _ h => h

instance has_listIterator (a n : Nat) [Away c a] : Has c (Iterator.list a n) :=
  ⟨fun hc => Away.ne hc⟩

instance has_backwards (a n : Nat) [Away c a] : Has c (Iterator.backwards a n) :=
  ⟨fun hc => Away.ne hc⟩

instance has_dictIterator (kind : String) (a n size : Nat) [Away c a] :
    Has c (Iterator.dict kind a n size) :=
  ⟨fun hc => Away.ne hc⟩

instance has_setIterator (a n size : Nat) [Away c a] : Has c (Iterator.set a n size) :=
  ⟨fun hc => Away.ne hc⟩

instance has_rangeIterator (next : Int) (count : Nat) (step : Int) :
    Has c (Iterator.range next count step) :=
  ⟨fun _ => trivial⟩

instance has_ended : Has c Iterator.ended := ⟨fun _ => trivial⟩

instance has_enumerate (source : Value) (next : Int) [Has c source] :
    Has c (Iterator.enumerate source next) :=
  Has.imp (a := source) fun _ h => h

instance has_zipIterator (sources : List Value) (strict : Bool) [Has c sources] :
    Has c (Iterator.zip sources strict) :=
  Has.imp (a := sources) fun _ h => h

instance has_map (f : Value) (sources : List Value) [Has c f] [Has c sources] :
    Has c (Iterator.map f sources) :=
  Has.imp₂ (a := f) (b := sources) fun _ h h' => ⟨h, h'⟩

instance has_filterIterator (test source : Value) [Has c test] [Has c source] :
    Has c (Iterator.filter test source) :=
  Has.imp₂ (a := test) (b := source) fun _ h h' => ⟨h, h'⟩

instance has_calls (f stop : Value) [Has c f] [Has c stop] : Has c (Iterator.calls f stop) :=
  Has.imp₂ (a := f) (b := stop) fun _ h h' => ⟨h, h'⟩

instance has_failing (rest : List Value) (error : Value) [Has c rest] [Has c error] :
    Has c (Iterator.failing rest error) :=
  Has.imp₂ (a := rest) (b := error) fun _ h h' => ⟨h, h'⟩

/-! ### Entries, items and arguments -/

instance has_addEntry (entries : Array (Value × Value)) (key value : Value) [Has c entries]
    [Has c key] [Has c value] : Has c (addEntry entries key value) := by
  unfold addEntry
  split
  · next i _ =>
    refine ⟨fun hc e he => ?_⟩
    obtain ⟨j, hj⟩ := Array.mem_iff_getElem?.1 he
    rw [Array.getElem?_modify] at hj
    split at hj
    · obtain ⟨e', he', rfl⟩ := Option.map_eq_some_iff.1 hj
      exact ⟨(Has.clear (a := entries) hc e' (Array.mem_of_getElem? he')).1,
        Has.clear (a := value) hc⟩
    · exact Has.clear (a := entries) hc e (Array.mem_of_getElem? hj)
  · infer_instance

instance has_addItem (items : Array Value) (item : Value) [Has c items] [Has c item] :
    Has c (addItem items item) := by
  unfold addItem
  infer_instance

instance has_combine (right : Bool) (held more : List Value) [Has c held] [Has c more] :
    Has c (combine right held more) := by
  unfold combine
  infer_instance

instance has_exchange (l : List Value) [Has c l] : Has c (exchange l) :=
  has_of_subset (l := l) (fun a ha => by
    unfold exchange at ha
    split at ha
    · simp only [List.mem_cons] at ha ⊢
      tauto
    · exact ha)

theorem fill_subset (isHole : Value → Bool) (items arguments : List Value) :
    fill isHole items arguments ⊆ items ++ arguments := by
  fun_induction fill isHole items arguments with
  | case1 => exact List.subset_append_right _ _
  | case2 => exact List.subset_append_left _ _
  | case3 item items a arguments _ ih =>
    refine List.cons_subset.2 ⟨by simp, List.Subset.trans ih fun v hv => ?_⟩
    simp only [List.mem_append, List.mem_cons] at hv ⊢
    tauto
  | case4 item items a arguments _ ih =>
    exact List.cons_subset.2 ⟨by simp, List.Subset.trans ih (List.subset_cons_self _ _)⟩

instance has_fill (isHole : Value → Bool) (items arguments : List Value) [Has c items]
    [Has c arguments] : Has c (fill isHole items arguments) :=
  has_of_subset (l := items ++ arguments) (fill_subset isHole items arguments)

instance has_find (k : Cache String Value) (key : String) [Has c k] : Has c (k.find key) := by
  unfold Cache.find
  split
  · next entry h =>
    exact Has.imp (a := k) fun _ hk =>
      have hentry := hk _ (List.mem_of_find?_eq_some h)
      ⟨fun _ hv => Option.some.inj hv ▸ hentry.2, fun e he => by
        rcases List.mem_cons.1 he with rfl | he
        · exact hentry
        · exact hk e (List.mem_filter.1 he).1⟩
  · exact Has.imp (a := k) fun _ hk => ⟨fun _ hv => (nomatch hv), hk⟩

instance has_store (k : Cache String Value) (key : String) (v : Value) [Has c k] [Has c v] :
    Has c (k.store key v) :=
  Has.imp₂ (a := k) (b := v) fun _ hk hv e he => by
    rcases List.mem_cons.1 (List.mem_of_mem_take he) with rfl | he
    · exact ⟨trivial, hv⟩
    · exact hk e (List.mem_filter.1 he).1

instance has_misses (k : Cache String Value) (n : Nat) [Has c k] :
    Has c { k with misses := n } :=
  Has.imp (a := k) fun _ h => h

instance has_window (items : List Value) (first last : Option Int) [Has c items] :
    Has c (window items first last) := by
  unfold window
  infer_instance

instance has_replaceWindow (items : List Value) (first last : Option Int) (part : List Value)
    [Has c items] [Has c part] : Has c (replaceWindow items first last part) := by
  unfold replaceWindow
  infer_instance

instance has_rangeItems (first last step : Int) : Has c (rangeItems first last step) := by
  unfold rangeItems
  infer_instance

instance has_viewItem (kind : String) (e : Value × Value) [Has c e] : Has c (viewItem kind e) := by
  obtain ⟨k, v⟩ := e
  have hkey : Has c k := has_fst (k, v)
  have hvalue : Has c v := has_snd (k, v)
  change Has c (match kind with
    | "dict_keys" => k
    | "dict_values" => v
    | _ => Value.tuple [k, v])
  split <;> infer_instance

end

end LambdaText
