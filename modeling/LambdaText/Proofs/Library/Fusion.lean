import Mathlib.Data.List.Forall2
import LambdaText.Proofs.Library.Folds

/-!
# Fusion of maps and selections

A function without side effects is one that computes: what its result stands for depends only on
what its argument stands for, and a call leaves everything as it is but for new cells. What values
stand for is left open, so that fresh lists may stand for the same as others. Mapping and selecting
by such functions come to partial functions on lists, and fuse as these do.
-/

namespace LambdaText

open LambdaText.Code LambdaText.Function

/-- Whether a computation gives a result. -/
def Run.Returns {α : Type} (r : Run α) (s : State) : Prop := ∃ a t, r.ends s = some (.ok a, t)

/-! ### What values stand for -/

/-- What values stand for in a state, as far as that is settled. -/
structure Meaning (δ : Type) where
  /-- Whether a value stands for something. -/
  means : State → Value → δ → Prop
  /-- Whether that counts as true. -/
  counts : δ → Bool
  /-- It does if the value does. -/
  counts_eq {s : State} {v : Value} {d : δ} : means s v d → s.counts v = counts d
  /-- A new cell is no matter. -/
  more {s : State} {v : Value} {d : δ} (c : Cell) : means s v d →
    means { s with cells := s.cells.push c } v d

namespace Meaning

variable {δ α β ε ζ : Type} (M : Meaning δ)

/-- Whether nothing changes from one state to another but that there are more cells. -/
structure Kept (s t : State) : Prop where
  cells : ∃ more, t.cells = s.cells ++ more
  means {v : Value} {d : δ} : M.means s v d → M.means t v d

/-- Whether a computation gives what stands for something and keeps all else, or, where there is
nothing to stand for, does not return. -/
def Yields (stands : State → α → ε → Prop) (s : State) :
    Option (Except Value α × State) → Option ε → Prop
  | e, some d => ∃ a t, e = some (.ok a, t) ∧ stands t a d ∧ M.Kept s t
  | e, none => ∀ a t, e ≠ some (.ok a, t)

/-- Whether a function has no side effects and computes a partial function. -/
def Computes (m : Machine) (f : Value) (F : δ → Option δ) : Prop :=
  ∀ s x d, M.means s x d → M.Yields M.means s ((callOn m f [x]).ends s) (F d)

/-- Whether a value is a list of values that stand for these. -/
def IsList (s : State) (v : Value) (ds : List δ) : Prop :=
  ∃ items, s.IsSequence v items ∧ List.Forall₂ (M.means s) items ds

/-- The items for which a partial function gives what counts as true, if it gives something for all
of them. -/
def chosen (P : δ → Option δ) : List δ → Option (List δ)
  | [] => some []
  | d :: rest => do
    let e ← P d
    let kept ← chosen P rest
    return if M.counts e then d :: kept else kept

variable {M} {s t u : State}

theorem Kept.refl (s : State) : M.Kept s s := ⟨⟨#[], by simp⟩, id⟩

theorem Kept.trans (h : M.Kept s t) (h' : M.Kept t u) : M.Kept s u := by
  obtain ⟨more, hmore⟩ := h.cells
  obtain ⟨more', hmore'⟩ := h'.cells
  exact ⟨⟨more ++ more', by rw [hmore', hmore, Array.append_assoc]⟩,
    fun hv => h'.means (h.means hv)⟩

theorem Kept.push (s : State) (c : Cell) : M.Kept s { s with cells := s.cells.push c } :=
  ⟨⟨#[c], by simp⟩, M.more c⟩

theorem Kept.forall₂ (h : M.Kept s t) {items : List Value} {ds : List δ}
    (hitems : List.Forall₂ (M.means s) items ds) : List.Forall₂ (M.means t) items ds :=
  hitems.imp fun _ _ => h.means

theorem IsList.kept {v : Value} {ds : List δ} (h : M.IsList s v ds) (hkept : M.Kept s t) :
    M.IsList t v ds := by
  obtain ⟨items, hv, hitems⟩ := h
  exact ⟨items, hv.more hkept.cells, hkept.forall₂ hitems⟩

/-! ### Computations that yield -/

section Yields

variable {stands : State → α → ε → Prop} {stands' : State → β → ζ → Prop} {r : Run α}
  {o : Option ε}

theorem Yields.pure {a : α} {d : ε} (h : stands s a d) :
    M.Yields stands s ((Pure.pure a : Run α).ends s) (some d) :=
  ⟨a, s, rfl, h, .refl s⟩

theorem Yields.bind {next : α → Run β} {onward : ε → Option ζ}
    (h : M.Yields stands s (r.ends s) o)
    (hnext : ∀ t a d, stands t a d → M.Kept s t →
      M.Yields stands' t ((next a).ends t) (onward d)) :
    M.Yields stands' s ((r >>= next).ends s) (o.bind onward) := by
  cases o with
  | none =>
    intro b t hend
    obtain ⟨a, u, hr, -⟩ := Run.exists_of_ends_bind hend
    exact h a u hr
  | some d =>
    obtain ⟨a, t, hr, ha, hkept⟩ := h
    rw [Run.ends_bind_of_ok hr, Option.bind_some]
    have hlater := hnext t a d ha hkept
    cases hd : onward d with
    | none =>
      rw [hd] at hlater
      exact hlater
    | some d' =>
      rw [hd] at hlater
      obtain ⟨b, u, hb, hstands, hkept'⟩ := hlater
      exact ⟨b, u, hb, hstands, hkept.trans hkept'⟩

theorem Yields.imp {stands' : State → α → ζ → Prop} {e : Option (Except Value α × State)}
    (h : M.Yields stands s e o) (onward : ε → ζ)
    (himp : ∀ t a d, stands t a d → M.Kept s t → stands' t a (onward d)) :
    M.Yields stands' s e (o.map onward) := by
  cases o with
  | none => exact h
  | some d =>
    obtain ⟨a, t, he, ha, hkept⟩ := h
    exact ⟨a, t, he, himp t a d ha hkept, hkept⟩

theorem Yields.returns_iff (h : M.Yields stands s (r.ends s) o) : r.Returns s ↔ o.isSome := by
  cases o with
  | none => simpa [Run.Returns, Yields] using h
  | some d =>
    obtain ⟨a, t, he, -⟩ := h
    exact ⟨fun _ => rfl, fun _ => ⟨a, t, he⟩⟩

theorem Yields.of_returns {a : α} (h : M.Yields stands s (some (.ok a, t)) o) :
    ∃ d, o = some d ∧ stands t a d ∧ M.Kept s t := by
  cases o with
  | none => exact absurd rfl (h a t)
  | some d =>
    obtain ⟨a', t', he, ha, hkept⟩ := h
    cases he
    exact ⟨d, rfl, ha, hkept⟩

end Yields

/-! ### Mapping and selecting -/

variable {m : Machine} {f g p v : Value} {F G P : δ → Option δ} {items : List Value} {ds : List δ}

/-- One function after the other computes one partial function after the other. -/
theorem Computes.compose (hf : M.Computes m f F) (hg : M.Computes m g G) (serial : Nat) :
    M.Computes m.above (.combined serial (.compose [f, g])) fun d => (G d).bind F := by
  intro s x d hx
  have hcall : callOn m.above (.combined serial (.compose [f, g])) [x] =
      callOn m g [x] >>= fun y => callOn m f [y] := by
    change callCombined m (.compose [f, g]) [x] [] = _
    rw [callCombined, shareCombined_positions rfl rfl, pure_bind]
    simp only [List.reverse_cons, List.reverse_nil, List.nil_append, List.singleton_append,
      callInSequence, List.headD_cons, bind_pure]
    rfl
  rw [hcall]
  exact (hg s x d hx).bind fun t y e hy _ => hf t y e hy

theorem ends_newList (values : Array Value) (s : State) :
    (Run.newList values).ends s =
      some (.ok (.list s.cells.size), { s with cells := s.cells.push (.list values) }) := rfl

theorem yields_newList {values : Array Value} (h : List.Forall₂ (M.means s) values.toList ds) :
    M.Yields M.IsList s ((Run.newList values).ends s) (some ds) :=
  ⟨_, _, ends_newList values s, ⟨values.toList, .list (by simp), (Kept.push s _).forall₂ h⟩,
    .push s _⟩

/-- A walk keeps everything if its steps do. -/
theorem kept_of_through {σ ρ : Type} {w : Walk Run Value σ ρ}
    (hstep : ∀ s a x d, M.means s x d → ∀ b t, (w.step a x).ends s = some (.ok (.inl b), t) →
      M.Kept s t) {a b : σ} (hitems : List.Forall₂ (M.means s) items ds)
    (h : (w.through a items).ends s = some (.ok (.inl b), t)) : M.Kept s t := by
  induction items generalizing s a ds with
  | nil =>
    cases h
    exact .refl _
  | cons x rest ih =>
    obtain ⟨d, ds, hx, hrest, rfl⟩ := List.forall₂_cons_left_iff.1 hitems
    obtain ⟨next, u, hend, hlater⟩ := Run.exists_of_ends_bind h
    cases next with
    | inr r => cases hlater
    | inl a' =>
      have hkept := hstep s a x d hx a' u hend
      exact hkept.trans (ih (hkept.forall₂ hrest) hlater)

/-- A walk whose steps keep everything goes over the items of its sequence. -/
theorem ends_walkOver_of_kept {σ ρ : Type} {w : Walk Run Value σ ρ}
    (hstep : ∀ s a x d, M.means s x d → ∀ b t, (w.step a x).ends s = some (.ok (.inl b), t) →
      M.Kept s t) (hv : s.IsSequence v items) (hitems : List.Forall₂ (M.means s) items ds)
    (a : σ) : (walkOver m w a v).ends s = (w.over a items).ends s := by
  refine ends_walkOver m fun front hfront b t hend => hv.more (Kept.cells (M := M) ?_)
  have hmeans := List.forall₂_take front.length hitems
  rw [← List.prefix_iff_eq_take.1 hfront] at hmeans
  exact kept_of_through hstep hmeans hend

theorem kept_of_call (hf : M.Computes m f F) {x y : Value} {d : δ} (hx : M.means s x d)
    (h : (callOn m f [x]).ends s = some (.ok y, t)) : M.Kept s t := by
  have hyields := hf s x d hx
  rw [h] at hyields
  obtain ⟨-, -, -, hkept⟩ := hyields.of_returns
  exact hkept

theorem over_mapping_cons (m : Machine) (f : Value) (results : Array Value) (x : Value)
    (rest : List Value) :
    (mapping (callOn m) Run.newList f).over results (x :: rest) =
      callOn m f [x] >>= fun y =>
        (mapping (callOn m) Run.newList f).over (results.push y) rest := by
  simp only [Walk.over, mapping, bind_assoc, pure_bind]

theorem yields_mapping (hf : M.Computes m f F) (results : Array Value) (es : List δ)
    (hresults : List.Forall₂ (M.means s) results.toList es)
    (hitems : List.Forall₂ (M.means s) items ds) :
    M.Yields M.IsList s
      (((mapping (callOn m) Run.newList f).over results items).ends s)
      ((ds.mapM F).map (es ++ ·)) := by
  induction items generalizing s results es ds with
  | nil =>
    cases hitems
    rw [List.mapM_nil]
    change M.Yields _ _ _ (some (es ++ []))
    rw [List.append_nil]
    exact yields_newList hresults
  | cons x rest ih =>
    obtain ⟨d, ds, hx, hrest, rfl⟩ := List.forall₂_cons_left_iff.1 hitems
    have hcons : ((d :: ds).mapM F).map (es ++ ·) =
        (F d).bind fun e => (ds.mapM F).map ((es ++ [e]) ++ ·) := by
      rw [List.mapM_cons]
      cases F d with
      | none => rfl
      | some e => cases ds.mapM F <;> simp
    rw [over_mapping_cons, hcons]
    refine (hf s x d hx).bind fun t y e hy hkept => ih _ _ ?_ (hkept.forall₂ hrest)
    rw [Array.toList_push]
    exact List.rel_append (hkept.forall₂ hresults) (.cons hy .nil)

theorem yields_mapItems (hcallable : f.isCallable = true) (hf : M.Computes m f F)
    (hv : s.IsSequence v items) (hitems : List.Forall₂ (M.means s) items ds) :
    M.Yields M.IsList s ((Operation.mapItems.run m [f, v] []).ends s) (ds.mapM F) := by
  have hrun : (Operation.mapItems.run m [f, v] []).ends s =
      ((mapping (callOn m) Run.newList f).over #[] items).ends s := by
    change (LambdaText.mapItems m f v).ends s = _
    rw [mapItems, coerce_eq_pure hcallable, pure_bind]
    refine ends_walkOver_of_kept (M := M) (fun s a x d hx b t hend => ?_) hv hitems _
    obtain ⟨y, u, hy, hpure⟩ := Run.exists_of_ends_bind (r := callOn m f [x]) hend
    cases hpure
    exact kept_of_call hf hx hy
  have hall := yields_mapping hf #[] [] .nil hitems
  rw [hrun]
  simpa using hall

/-- Whether a value is a list of some values and then of some of the items, in order, which stand
for these. -/
def IsSelection (before items : List Value) (s : State) (v : Value) (ds : List δ) : Prop :=
  ∃ kept, kept.Sublist items ∧ s.IsSequence v (before ++ kept) ∧
    List.Forall₂ (M.means s) kept ds

theorem over_selecting_cons (m : Machine) (p : Value) (before : Array Value) (x : Value)
    (rest : List Value) :
    (selecting (callOn m) truth Run.newList p).over before (x :: rest) =
      callOn m p [x] >>= fun y => truth y >>= fun b =>
        (selecting (callOn m) truth Run.newList p).over (if b then before.push x else before)
          rest := by
  simp only [Walk.over, selecting, bind_assoc]
  congr 1
  funext y
  congr 1
  funext b
  cases b <;> rfl

theorem chosen_cons (P : δ → Option δ) (d : δ) (ds : List δ) :
    M.chosen P (d :: ds) = (P d).bind fun e => (M.chosen P ds).map fun kept =>
      if M.counts e then d :: kept else kept := by
  rw [chosen]
  cases P d with
  | none => rfl
  | some e => cases M.chosen P ds <;> rfl

theorem yields_selecting (hp : M.Computes m p P) (before : Array Value)
    (hitems : List.Forall₂ (M.means s) items ds) :
    M.Yields (M.IsSelection before.toList items) s
      (((selecting (callOn m) truth Run.newList p).over before items).ends s)
      (M.chosen P ds) := by
  induction items generalizing s before ds with
  | nil =>
    cases hitems
    exact ⟨_, _, ends_newList before s, ⟨[], .slnil, .list (by simp), .nil⟩, .push s _⟩
  | cons x rest ih =>
    obtain ⟨d, ds, hx, hrest, rfl⟩ := List.forall₂_cons_left_iff.1 hitems
    rw [over_selecting_cons, chosen_cons]
    refine (hp s x d hx).bind fun t y e hy hkept => ?_
    rw [Run.ends_bind_of_ok (ends_truth y t), M.counts_eq hy]
    have hlater := ih (if M.counts e then before.push x else before) (hkept.forall₂ hrest)
    refine hlater.imp _ fun u a es ha hkept' => ?_
    obtain ⟨kept, hsub, hseq, hmeans⟩ := ha
    cases hcounts : M.counts e with
    | false =>
      rw [hcounts] at hseq
      exact ⟨kept, hsub.cons x, hseq, hmeans⟩
    | true =>
      rw [hcounts] at hseq
      refine ⟨x :: kept, hsub.cons_cons x, ?_, .cons (hkept'.means (hkept.means hx)) hmeans⟩
      simpa using hseq

theorem yields_selectItems (hcallable : p.isCallable = true) (hp : M.Computes m p P)
    (hv : s.IsSequence v items) (hitems : List.Forall₂ (M.means s) items ds) :
    M.Yields (M.IsSelection [] items) s ((Operation.selectItems.run m [p, v] []).ends s)
      (M.chosen P ds) := by
  have hrun : (Operation.selectItems.run m [p, v] []).ends s =
      ((selecting (callOn m) truth Run.newList p).over #[] items).ends s := by
    change (LambdaText.selectItems m p v).ends s = _
    rw [selectItems, coerce_eq_pure hcallable, pure_bind]
    refine ends_walkOver_of_kept (M := M) (fun s a x d hx b t hend => ?_) hv hitems _
    obtain ⟨y, u, hy, hend⟩ := Run.exists_of_ends_bind (r := callOn m p [x]) hend
    rw [Run.ends_bind_of_ok (ends_truth y u)] at hend
    have hsame : t = u := by
      cases hc : u.counts y <;> rw [hc] at hend <;> cases hend <;> rfl
    exact hsame ▸ kept_of_call hp hx hy
  rw [hrun]
  exact yields_selecting hp #[] hitems

theorem IsSelection.isList {items : List Value} (h : M.IsSelection [] items s v ds) :
    M.IsList s v ds := by
  obtain ⟨kept, -, hseq, hmeans⟩ := h
  exact ⟨kept, hseq, hmeans⟩

/-! ### Partial functions on lists -/

theorem mapM_mapM (F G : δ → Option δ) (ds : List δ) :
    (ds.mapM G).bind (List.mapM F) = ds.mapM fun d => (G d).bind F := by
  induction ds with
  | nil => rfl
  | cons d ds ih =>
    rw [List.mapM_cons, List.mapM_cons, ← ih]
    cases G d with
    | none => rfl
    | some e =>
      cases ds.mapM G with
      | none => cases hF : F e <;> simp [hF]
      | some es => simp [List.mapM_cons]

/-- Choosing among what a partial function gives, and choosing first and applying it then. -/
theorem chosen_of_mapM {es : List δ} (h : ds.mapM G = some es) :
    (M.chosen (fun d => (G d).bind P) ds = none ∧ M.chosen P es = none) ∨
      ∃ kept ks, M.chosen (fun d => (G d).bind P) ds = some kept ∧ kept.mapM G = some ks ∧
        M.chosen P es = some ks := by
  induction ds generalizing es with
  | nil =>
    cases h
    exact .inr ⟨[], [], rfl, rfl, rfl⟩
  | cons d ds ih =>
    rw [List.mapM_cons] at h
    obtain ⟨e, he, h⟩ := Option.bind_eq_some_iff.1 h
    obtain ⟨es, hes, h⟩ := Option.bind_eq_some_iff.1 h
    cases h
    rw [chosen_cons, chosen_cons, he, Option.bind_some]
    cases hP : P e with
    | none => exact .inl ⟨rfl, rfl⟩
    | some b =>
      rcases ih hes with ⟨hnone, hnone'⟩ | ⟨kept, ks, hkept, hks, hchosen⟩
      · exact .inl ⟨by simp [hnone], by simp [hnone']⟩
      · right
        cases hb : M.counts b with
        | false => exact ⟨kept, ks, by simp [hkept, hb], hks, by simp [hchosen, hb]⟩
        | true =>
          exact ⟨d :: kept, e :: ks, by simp [hkept, hb], by simp [List.mapM_cons, he, hks],
            by simp [hchosen, hb]⟩

theorem chosen_chosen {es : List δ} (h : M.chosen P ds = some es) :
    M.chosen P es = some es := by
  induction ds generalizing es with
  | nil =>
    cases h
    rfl
  | cons d ds ih =>
    rw [chosen_cons] at h
    obtain ⟨e, he, h⟩ := Option.bind_eq_some_iff.1 h
    obtain ⟨kept, hkept, rfl⟩ := Option.map_eq_some_iff.1 h
    split
    · next hcounts => simp [chosen_cons, he, ih hkept, hcounts]
    · exact ih hkept

end Meaning

/-! ### Operations -/

section Operations

variable {δ : Type} {M : Meaning δ} {m : Machine} {f g p v : Value} {F G P : δ → Option δ}
  {items : List Value} {ds : List δ} {s : State}

/-- Maps a function over what another one maps a sequence to. -/
def mapTwice (m : Machine) (f g v : Value) : Run Value := do
  let results ← Operation.mapItems.run m [g, v] []
  Operation.mapItems.run m [f, results] []

/-- Selects from what a function maps a sequence to. -/
def selectMapped (m : Machine) (p g v : Value) : Run Value := do
  let results ← Operation.mapItems.run m [g, v] []
  Operation.selectItems.run m [p, results] []

/-- Maps a function over what another one selects from a sequence one level above. -/
def mapSelected (m : Machine) (g c v : Value) : Run Value := do
  let kept ← Operation.selectItems.run m.above [c, v] []
  Operation.mapItems.run m [g, kept] []

theorem yields_mapItems_of_isList (hcallable : f.isCallable = true) (hf : M.Computes m f F)
    (hv : M.IsList s v ds) :
    M.Yields M.IsList s ((Operation.mapItems.run m [f, v] []).ends s) (ds.mapM F) := by
  obtain ⟨items, hseq, hitems⟩ := hv
  exact Meaning.yields_mapItems hcallable hf hseq hitems

theorem yields_mapTwice (hf : f.isCallable = true) (hg : g.isCallable = true)
    (hF : M.Computes m f F) (hG : M.Computes m g G) (hv : s.IsSequence v items)
    (hitems : List.Forall₂ (M.means s) items ds) :
    M.Yields M.IsList s ((mapTwice m f g v).ends s) ((ds.mapM G).bind (List.mapM F)) :=
  (Meaning.yields_mapItems hg hG hv hitems).bind fun _ _ _ hlist _ =>
    yields_mapItems_of_isList hf hF hlist

theorem yields_selectMapped (hp : p.isCallable = true) (hg : g.isCallable = true)
    (hP : M.Computes m p P) (hG : M.Computes m g G) (hv : s.IsSequence v items)
    (hitems : List.Forall₂ (M.means s) items ds) :
    M.Yields M.IsList s ((selectMapped m p g v).ends s) ((ds.mapM G).bind (M.chosen P)) := by
  refine (Meaning.yields_mapItems hg hG hv hitems).bind fun t results es hlist _ => ?_
  obtain ⟨values, hseq, hvalues⟩ := hlist
  have hselect := Meaning.yields_selectItems hp hP hseq hvalues
  have hlist := hselect.imp id fun _ _ _ hkept _ => hkept.isList
  rwa [Option.map_id] at hlist

theorem yields_mapSelected {c : Value} (hc : c.isCallable = true) (hg : g.isCallable = true)
    (hP : M.Computes m.above c P) (hG : M.Computes m g G) (hv : s.IsSequence v items)
    (hitems : List.Forall₂ (M.means s) items ds) :
    M.Yields M.IsList s ((mapSelected m g c v).ends s) ((M.chosen P ds).bind (List.mapM G)) :=
  (Meaning.yields_selectItems hc hP hv hitems).bind fun _ _ _ hkept _ =>
    yields_mapItems_of_isList hg hG hkept.isList

/-- Maps and selections fuse with composition. For functions without side effects, which may fail,
and a sequence of whatever they are about: mapping twice returns if mapping the composed function
does, and then with a list of the same; selecting from what is mapped returns if both the mapping
and selecting with the composed test do, and then with a list of the same as mapping what that
selects; and selecting twice, if selecting once returns, selects the same items again, which are
some of the items of the sequence in their order. -/
theorem maps_fuse (hf : f.isCallable = true) (hg : g.isCallable = true)
    (hp : p.isCallable = true) (s : State) :
    ∃ c c' t, (Operation.compose.run machine [] [f, g]).ends s =
        some (.ok c, { s with serial := s.serial + 1 }) ∧
      (Operation.compose.run machine [] [p, g]).ends { s with serial := s.serial + 1 } =
        some (.ok c', t) ∧
      ∀ {δ : Type} {M : Meaning δ} {m : Machine} {F G P : δ → Option δ}, M.Computes m f F →
        M.Computes m g G → M.Computes m p P → ∀ {u : State} {v : Value} {items : List Value}
        {ds : List δ}, u.IsSequence v items → List.Forall₂ (M.means u) items ds →
          (((mapTwice m f g v).Returns u ↔
              (Operation.mapItems.run m.above [c, v] []).Returns u) ∧
            ∀ w w' u₁ u₂, (mapTwice m f g v).ends u = some (.ok w, u₁) →
              (Operation.mapItems.run m.above [c, v] []).ends u = some (.ok w', u₂) →
              ∃ es, M.IsList u₁ w es ∧ M.IsList u₂ w' es) ∧
          (((selectMapped m p g v).Returns u ↔
              (Operation.mapItems.run m [g, v] []).Returns u ∧
                (Operation.selectItems.run m.above [c', v] []).Returns u) ∧
            ∀ w u₁, (selectMapped m p g v).ends u = some (.ok w, u₁) →
              ∃ w' u₂ es, (mapSelected m g c' v).ends u = some (.ok w', u₂) ∧
                M.IsList u₁ w es ∧ M.IsList u₂ w' es) ∧
          ∀ w u₁, (Operation.selectItems.run m [p, v] []).ends u = some (.ok w, u₁) →
            ∃ kept, kept.Sublist items ∧ u₁.IsSequence w kept ∧
              ∃ w' u₂, (Operation.selectItems.run m [p, w] []).ends u₁ = some (.ok w', u₂) ∧
                u₂.IsSequence w' kept := by
  have hfg : ∀ h ∈ [f, g], h.isCallable = true := by simp [hf, hg]
  have hpg : ∀ h ∈ [p, g], h.isCallable = true := by simp [hp, hg]
  refine ⟨_, _, _, ends_combineRow hfg machine .compose s, ends_combineRow hpg machine .compose _,
    fun {δ M m F G P} hF hG hP {u v items ds} hv hitems => ?_⟩
  have htwice := yields_mapTwice hf hg hF hG hv hitems
  have hfused := Meaning.yields_mapItems (v := v) rfl (hF.compose hG s.serial) hv hitems
  have hmapped := Meaning.yields_mapItems hg hG hv hitems
  have hpart := yields_selectMapped hp hg hP hG hv hitems
  have hcomposed := hP.compose hG (s.serial + 1)
  have hselected := Meaning.yields_selectItems (v := v) rfl hcomposed hv hitems
  have honce := Meaning.yields_selectItems hp hP hv hitems
  rw [Meaning.mapM_mapM] at htwice
  refine ⟨⟨?mapsReturn, fun w w' u₁ u₂ h h' => ?mapsAlike⟩,
    ⟨?selectsReturn, fun w u₁ h => ?selectsAlike⟩, fun w u₁ h => ?again⟩
  case mapsReturn => exact htwice.returns_iff.trans hfused.returns_iff.symm
  case mapsAlike =>
    rw [h] at htwice
    rw [h'] at hfused
    obtain ⟨es, hes, hw, -⟩ := htwice.of_returns
    obtain ⟨es', hes', hw', -⟩ := hfused.of_returns
    exact ⟨es, hw, Option.some.inj (hes.symm.trans hes') ▸ hw'⟩
  case selectsReturn =>
    rw [hpart.returns_iff, hmapped.returns_iff, hselected.returns_iff]
    cases hes : ds.mapM G with
    | none => simp
    | some es =>
      rcases Meaning.chosen_of_mapM (M := M) (P := P) hes with
        ⟨hnone, hnone'⟩ | ⟨kept, ks, hkept, -, hks⟩
      · simp [hnone, hnone']
      · simp [hkept, hks]
  case selectsAlike =>
    rw [h] at hpart
    obtain ⟨ks, hks, hw, -⟩ := hpart.of_returns
    obtain ⟨es, hes, hks⟩ := Option.bind_eq_some_iff.1 hks
    have hmapSelected := yields_mapSelected (m := m) rfl hg hcomposed hG hv hitems
    rcases Meaning.chosen_of_mapM (M := M) (P := P) hes with
      ⟨-, hnone⟩ | ⟨kept, ks', hkept, hmap, hks'⟩
    · rw [hnone] at hks
      cases hks
    · obtain rfl := Option.some.inj (hks.symm.trans hks')
      rw [hkept, Option.bind_some, hmap] at hmapSelected
      obtain ⟨w', u₂, hend, hw', -⟩ := hmapSelected
      exact ⟨w', u₂, ks, hend, hw, hw'⟩
  case again =>
    rw [h] at honce
    obtain ⟨es, hes, ⟨kept, hsub, hseq, hmeans⟩, -⟩ := honce.of_returns
    have hagain := Meaning.yields_selectItems hp hP hseq hmeans
    rw [Meaning.chosen_chosen hes] at hagain
    obtain ⟨w', u₂, hend, ⟨kept', hsub', hseq', hmeans'⟩, -⟩ := hagain
    have hsame : kept' = kept :=
      hsub'.eq_of_length (hmeans'.length_eq.trans hmeans.length_eq.symm)
    exact ⟨kept, hsub, hseq, w', u₂, hend, hsame ▸ hseq'⟩

/-- Integers and texts stand for themselves. -/
def plainMeaning : Meaning (Int ⊕ String) where
  means _ v d := v = d.elim .int .text
  counts d := d.elim (· != 0) (· != "")
  counts_eq := by
    rintro s _ (i | x) rfl <;> rfl
  more _ := id

theorem computes_len : plainMeaning.Computes (machineAt 1) (.builtin "len")
    (Sum.elim (fun _ => none) fun x => some (.inl x.length)) := by
  rintro s _ (i | x) rfl
  · exact fun _ _ h => nomatch h
  · exact ⟨_, _, rfl, rfl, .refl s⟩

theorem computes_abs : plainMeaning.Computes (machineAt 1) (.builtin "abs")
    (Sum.elim (fun i => some (.inl i.natAbs)) fun _ => none) := by
  rintro s _ (i | x) rfl
  · exact ⟨_, _, rfl, rfl, .refl s⟩
  · exact fun _ _ h => nomatch h

/-- The lengths of texts, of which an integer has none. -/
theorem maps_fuse_lengths :
    ∃ c t, (Operation.compose.run machine [] [.builtin "abs", .builtin "len"]).ends {} =
        some (.ok c, t) ∧
      (∃ w w' u₁ u₂ es,
        (mapTwice (machineAt 1) (.builtin "abs") (.builtin "len")
          (.tuple [.text "a", .text "bc"])).ends {} = some (.ok w, u₁) ∧
        (Operation.mapItems.run (machineAt 2) [c, .tuple [.text "a", .text "bc"]] []).ends {} =
          some (.ok w', u₂) ∧
        plainMeaning.IsList u₁ w es ∧ plainMeaning.IsList u₂ w' es) ∧
      ¬ (Operation.mapItems.run (machineAt 2) [c, .tuple [.text "a", .int 2]] []).Returns {} := by
  obtain ⟨c, c', t, hc, -, hfuse⟩ := maps_fuse (f := .builtin "abs") (g := .builtin "len")
    (p := .builtin "abs") rfl rfl rfl {}
  have hitems (d : Int ⊕ String) : List.Forall₂ (plainMeaning.means {})
      [.text "a", d.elim .int .text] [.inr "a", d] := .cons rfl (.cons rfl .nil)
  have hlaws (d : Int ⊕ String) := hfuse computes_abs computes_len computes_abs
    (.tuple {} [.text "a", d.elim .int .text]) (hitems d)
  obtain ⟨⟨hreturns, hsame⟩, -⟩ := hlaws (.inr "bc")
  obtain ⟨⟨hreturns', -⟩, -⟩ := hlaws (.inl 2)
  have htwice : (mapTwice (machineAt 1) (.builtin "abs") (.builtin "len")
      (.tuple [.text "a", .text "bc"])).ends {} = some (.ok (.list 1),
        { cells := #[.list #[.int 1, .int 2], .list #[.int 1, .int 2]] }) := rfl
  obtain ⟨w', u₂, hfused⟩ := hreturns.1 ⟨_, _, htwice⟩
  obtain ⟨es, hw, hw'⟩ := hsame _ _ _ _ htwice hfused
  refine ⟨c, _, hc, ⟨_, w', _, u₂, es, htwice, hfused, hw, hw'⟩, fun hfused => ?_⟩
  obtain ⟨w, u, h⟩ := hreturns'.2 hfused
  cases h

end Operations

end LambdaText
